import Flowchart.Proofs.Relation.Flight

/-! What one event can do to the tasks of an option list and to its loading flag. A task that is
over clears the flag if it waited for a page of the search at hand, and a search puts an end to the
one before it. -/

namespace Flowchart

namespace LookupSession

/-- A task was started as a search. -/
def IsSearch (session : LookupSession) (task : Nat) : Prop :=
  ∃ held, session.tasks[task]? = some held ∧ held.kind = .search

/-- A task was started as a search, and has neither ended nor been cancelled. -/
def GoesOn (session : LookupSession) (task : Nat) : Prop :=
  ∃ held, session.tasks[task]? = some held ∧ held.kind = .search ∧ held.isPending = true

/-- What an event can do to the tasks and to the loading flag. -/
inductive Handling (session next : LookupSession) : Prop where
  /-- All tasks are kept, and the flag with them; one that is no search may be added. -/
  | passed (generation : next.lookup.generation = session.lookup.generation)
    (loading : next.lookup.loading = session.lookup.loading)
    (kept : ∀ (task : Nat) (held : LookupTask), session.tasks[task]? = some held →
      next.tasks[task]? = some held)
    (searches : ∀ (task : Nat) (held : LookupTask), next.tasks[task]? = some held →
      held.kind = .search → session.tasks[task]? = some held)
  /-- A task asks for the next page: a search that went on before, or a task of another kind. -/
  | asked (task : Nat) (kind : TaskKind)
    (generation : next.lookup.generation = session.lookup.generation)
    (asks : next.tasks[task]? = some ⟨kind, .asking session.calls.length⟩)
    (made : next.calls[session.calls.length]? = some ⟨.page session.lookup.request, none⟩)
    (search : kind = .search → session.GoesOn task)
    (others : ∀ other, other ≠ task → next.tasks[other]? = session.tasks[other]?)
  /-- A task is over. Where the flag stays as it was, the task did not wait for a live page. -/
  | ended (task : Nat) (old new : LookupTask)
    (generation : next.lookup.generation = session.lookup.generation)
    (held : session.tasks[task]? = some old) (stands : next.tasks[task]? = some new)
    (done : new.isPending = false) (kind : new.kind = old.kind)
    (others : ∀ other, other ≠ task → next.tasks[other]? = session.tasks[other]?)
    (flag : next.lookup.loading = false ∨ next.lookup.loading = session.lookup.loading ∧
      ∀ call request, session.Pends task call (.page request) →
        request.generation ≠ session.lookup.generation)
  /-- A search is added. Of the searches before it, the last one is over. -/
  | restarted (free : next.lookup.loading = false)
    (added : next.tasks[session.tasks.length]? =
      some ⟨.search, .resting next.lookup.generation⟩)
    (bound : ∀ task, next.IsSearch task → task ≤ session.tasks.length)
    (older : ∀ task, next.GoesOn task → task ≠ session.tasks.length →
      session.GoesOn task ∧ ∃ later, task < later ∧ session.IsSearch later)

/-- Nothing happens to tasks that stay the same under a flag that does. -/
theorem Handling.idle {session next : LookupSession} (tasks : next.tasks = session.tasks)
    (same : next.lookup.progress = session.lookup.progress) : session.Handling next :=
  -- Every task is the one that it was.
  .passed (congrArg Progress.generation same) (congrArg Progress.loading same)
    (fun _ _ held => tasks ▸ held) fun _ _ held _ => tasks ▸ held

/-- A task that is added stands behind the others, which keep their places. -/
theorem getElem?_append_others {tasks : List LookupTask} {task : Nat} (added : LookupTask)
    (other : task ≠ tasks.length) : (tasks ++ [added])[task]? = tasks[task]? := by
  -- Inside, the old list answers. Past the new task neither has anything.
  rcases Nat.lt_or_gt_of_ne other with inside | beyond
  · exact List.getElem?_append_left inside
  · have outside : (tasks ++ [added]).length ≤ task := by
      rw [List.length_append, List.length_singleton]
      exact beyond
    rw [List.getElem?_eq_none outside, List.getElem?_eq_none (Nat.le_of_lt beyond)]

/-- A task that is no search and asks for no page is added without further ado. -/
theorem addTask_handling {session : LookupSession} {lookup : Lookup} {kind : TaskKind}
    {state : TaskState} {calls : List Call} (same : lookup.progress = session.lookup.progress)
    (other : kind ≠ .search) :
    session.Handling ⟨lookup, session.tasks ++ [⟨kind, state⟩], calls⟩ := by
  refine .passed (congrArg Progress.generation same) (congrArg Progress.loading same)
    (fun _ _ found => getElem?_append_kept _ found) fun task held found search => ?_
  -- The task that was added is of another kind.
  by_cases last : task = session.tasks.length
  · subst last
    rw [List.getElem?_concat_length, Option.some.injEq] at found
    subst found
    exact absurd search other
  · rwa [getElem?_append_others _ last] at found

/-- A task that is no search is added with the request for the next page. -/
theorem beginLoad_handling {session : LookupSession} {lookup next : Lookup} {byScroll : Bool}
    {request : PageRequest} {kind : TaskKind} (same : lookup.progress = session.lookup.progress)
    (begun : lookup.beginLoad byScroll = some (request, next)) (other : kind ≠ .search) :
    session.Handling
      (({ session with lookup := next }.addTask kind (.asking session.calls.length)).call
        (.page request)) := by
  -- The new task asks by the new call, and every other task stands where it stood.
  obtain ⟨-, rfl, rfl⟩ := Lookup.beginLoad_eq_some begun
  refine .asked session.tasks.length kind (congrArg Progress.generation same)
    List.getElem?_concat_length ?_ (fun search => absurd search other)
    fun _ distinct => getElem?_append_others _ distinct
  rw [← Lookup.request_congr same]
  exact List.getElem?_concat_length

/-- Loading asks for the next page or leaves the tasks as they are. -/
theorem load_handling (session : LookupSession) (byScroll : Bool) :
    session.Handling (session.load byScroll) := by
  unfold load
  -- A load that is refused leaves a task that is over.
  split
  · exact addTask_handling rfl nofun
  · rename_i begun
    exact beginLoad_handling rfl begun nofun

/-- Scrolling loads, or leaves the tasks as they are. -/
theorem scroll_handling (session : LookupSession) (height top shown : Json) :
    session.Handling (session.scroll height top shown) := by
  unfold scroll
  -- Only the first outcome of the position loads.
  split
  · exact load_handling session true
  · exact addTask_handling rfl nofun
  · exact addTask_handling rfl nofun

/-- Opening the list asks for the next page or leaves the tasks as they are. -/
theorem toggle_handling (session : LookupSession) : session.Handling session.toggle := by
  unfold toggle
  dsimp only
  split
  · exact addTask_handling rfl nofun
  · rename_i begun
    -- Opening the list is no part of the progress, so the load begins as it would have.
    split at begun
    · cases begun
    · have same : session.lookup.markOpened.progress = session.lookup.progress := rfl
      exact beginLoad_handling same begun nofun

/-- Showing a label leaves the tasks as they are. -/
theorem label_handling (session : LookupSession) (value : Json) :
    session.Handling (session.label value) := by
  unfold label
  -- The task asks for a label or is over, and in both cases it is no search.
  split
  · exact addTask_handling rfl nofun
  · rename_i begun
    exact addTask_handling (Lookup.beginLabel_progress begun) nofun

/-- The state of a task that waits for an answer says for which one it waits. -/
theorem Pends.state {session : LookupSession} {task call : Nat} {request : Request}
    {held : LookupTask} (pending : session.Pends task call request)
    (found : session.tasks[task]? = some held) : held.state = .asking call := by
  -- Only one task stands in the place.
  obtain ⟨_, asking⟩ := pending.asks
  rw [found, Option.some.injEq] at asking
  rw [asking]

/-- A task that rests no longer is over, and it waited for no page. -/
theorem setTask_handling {session : LookupSession} {task generation : Nat} {kind : TaskKind}
    {state : TaskState} (rests : session.tasks[task]? = some ⟨kind, .resting generation⟩)
    (done : LookupTask.isPending ⟨kind, state⟩ = false) :
    session.Handling (session.setTask task state) := by
  -- The task rested, so it waited for no page.
  refine .ended task _ ⟨kind, state⟩ rfl rests ?_ done rfl
    (fun _ distinct => List.getElem?_modify_ne _ _ (Ne.symm distinct))
    (.inr ⟨rfl, fun _ _ pending => nomatch pending.state rests⟩)
  simp [setTask, rests]

/-- A search that begins asks for the next page or is over. -/
theorem beginSearch_handling {session : LookupSession} {task generation : Nat} {kind : TaskKind}
    (rests : session.tasks[task]? = some ⟨kind, .resting generation⟩) :
    session.Handling (session.beginSearch task generation) := by
  unfold beginSearch
  split
  · split
    · exact setTask_handling rests rfl
    · rename_i request lookup begun
      -- The task of the search itself goes on to ask.
      obtain ⟨-, rfl, rfl⟩ := Lookup.beginLoad_eq_some begun
      refine .asked task kind rfl ?_ List.getElem?_concat_length ?_
        fun _ distinct => List.getElem?_modify_ne _ _ (Ne.symm distinct)
      · simp [call, setTask, rests]
      · rintro rfl
        exact ⟨_, rests, rfl, rfl⟩
  · exact setTask_handling rests rfl

/-- A pause that ends begins a search at most. -/
theorem wake_handling (session : LookupSession) (task : Nat) :
    session.Handling (session.wake task) := by
  unfold wake
  -- The task is looked up by its state, and the kind it has is recovered from there.
  split
  · rename_i rests _
    obtain ⟨⟨kind, _⟩, held, rfl⟩ := Option.map_eq_some_iff.mp rests
    exact beginSearch_handling held
  · rename_i rests _
    obtain ⟨⟨kind, _⟩, held, rfl⟩ := Option.map_eq_some_iff.mp rests
    exact setTask_handling held rfl
  · exact .idle rfl rfl

/-- A task that was cancelled is over, and still of its kind. -/
theorem cancel_over (task : LookupTask) :
    task.cancel.isPending = false ∧ task.cancel.kind = task.kind := by
  unfold LookupTask.cancel
  -- A task that was over is left as it is.
  split
  · exact ⟨rfl, rfl⟩
  · rename_i past
    exact ⟨Bool.eq_false_iff.mpr past, rfl⟩

/-- Letting go of a request for a live page clears the flag; any other request leaves it. -/
theorem letGo_flag (progress : Progress) (request : Request) :
    (progress.letGo request).generation = progress.generation ∧
      ((progress.letGo request).loading = false ∨
        (progress.letGo request).loading = progress.loading ∧
          ∀ page, request = .page page → page.generation ≠ progress.generation) := by
  -- Only a page of the search at hand frees the flag.
  cases request with
  | label request => exact ⟨rfl, .inr ⟨rfl, nofun⟩⟩
  | page request =>
    refine ⟨by rw [Progress.letGo_eq], ?_⟩
    by_cases current : request.generation = progress.generation
    · exact .inl (congrArg Progress.loading (if_pos current))
    · refine .inr ⟨congrArg Progress.loading (if_neg current), ?_⟩
      rintro _ ⟨⟩
      exact current

/-- Cancelling a task that waits for a live page clears the flag; any other one leaves it. -/
theorem releaseTask_flag {session : LookupSession} {task : Nat} {old : LookupTask}
    (held : session.tasks[task]? = some old) :
    let lookup := releaseTask session.calls session.lookup old
    lookup.generation = session.lookup.generation ∧
      (lookup.loading = false ∨ lookup.loading = session.lookup.loading ∧
        ∀ call request, session.Pends task call (.page request) →
          request.generation ≠ session.lookup.generation) := by
  -- What matters is whether the task waits for a page of the search at hand.
  unfold releaseTask
  split
  · rename_i call asking
    split
    · rename_i request _ made
      have flag := letGo_flag session.lookup.progress (.page request)
      rw [← Lookup.release_progress] at flag
      refine ⟨flag.1, flag.2.imp_right fun ⟨kept, older⟩ => ⟨kept, fun other asked pending => ?_⟩⟩
      -- The task waited for this very request.
      cases asking.symm.trans (pending.state held)
      cases made.symm.trans pending.made
      exact older request rfl
    · rename_i noPage
      refine ⟨rfl, .inr ⟨rfl, fun other asked pending => ?_⟩⟩
      cases asking.symm.trans (pending.state held)
      exact absurd pending.made (noPage _ _)
  · rename_i idle
    exact ⟨rfl, .inr ⟨rfl, fun other _ pending => absurd (pending.state held) (idle other)⟩⟩

/-- Cancelling a task is its end, and leaves the flag to a live page of another one. -/
theorem cancel_handling (session : LookupSession) (task : Nat) :
    session.Handling (session.cancel task) := by
  unfold cancel
  -- No such task means that nothing happens.
  split
  · exact .idle rfl rfl
  · rename_i old held
    obtain ⟨done, kind⟩ := cancel_over old
    obtain ⟨generation, flag⟩ := releaseTask_flag held
    refine .ended task old old.cancel generation held ?_ done kind
      (fun _ distinct => List.getElem?_modify_ne _ _ (Ne.symm distinct)) flag
    simp [held]

/-- Without a last search among tasks there is no search at all. -/
theorem lastSearch?_eq_none {tasks : List LookupTask} (never : lastSearch? tasks = none)
    {task : Nat} {held : LookupTask} (found : tasks[task]? = some held) :
    held.kind ≠ .search := by
  -- By induction on the tasks: the first one is no search, and neither is one further on.
  induction tasks generalizing task with
  | nil => cases found
  | cons first rest ih =>
    simp only [lastSearch?] at never
    split at never
    · cases never
    · rename_i nowhere
      cases task with
      | zero =>
        cases found
        intro search
        simp [search] at never
      | succ further => exact ih nowhere found

/-- The last search among tasks is a search, and no search stands behind it. -/
theorem lastSearch?_eq_some {tasks : List LookupTask} {last : Nat}
    (place : lastSearch? tasks = some last) :
    (∃ held, tasks[last]? = some held ∧ held.kind = .search) ∧
      ∀ {task : Nat} {held : LookupTask}, tasks[task]? = some held → held.kind = .search →
        task ≤ last := by
  -- By induction on the tasks: the first one counts only if no search comes after it.
  induction tasks generalizing last with
  | nil => cases place
  | cons first rest ih =>
    simp only [lastSearch?] at place
    split at place
    · rename_i further place'
      cases place
      obtain ⟨search, bound⟩ := ih place'
      -- The first task stands before the search that was found further on.
      refine ⟨search, fun {task held} found kind => ?_⟩
      cases task with
      | zero => exact Nat.zero_le _
      | succ task => exact Nat.succ_le_succ (bound found kind)
    · rename_i nowhere
      split at place
      · rename_i search
        cases place
        refine ⟨⟨first, rfl, search⟩, fun {task held} found kind => ?_⟩
        cases task with
        | zero => exact Nat.le_refl _
        | succ task => exact absurd kind (lastSearch?_eq_none nowhere found)
      · cases place

/-- The tasks once a search starts over: it stands behind the others, and of those that were
searches none goes on but one that a later search had followed before. -/
theorem search_tasks (session : LookupSession) (term : Json) :
    ∃ tasks : List LookupTask, tasks.length = session.tasks.length ∧
      session.search term =
        ⟨session.lookup.restart term,
          tasks ++ [⟨.search, .resting (session.lookup.restart term).generation⟩],
          session.calls⟩ ∧
      ∀ {task : Nat} {held : LookupTask}, tasks[task]? = some held →
        ∃ old, session.tasks[task]? = some old ∧ held.kind = old.kind ∧
          (held.kind = .search → held.isPending = true →
            old.isPending = true ∧ ∃ later, task < later ∧ session.IsSearch later) := by
  -- Without an earlier search nothing is cancelled, and none of the tasks is a search.
  cases place : lastSearch? session.tasks with
  | none =>
    refine ⟨session.tasks, rfl, by simp only [search, place]; rfl, fun {task held} found => ?_⟩
    exact ⟨held, found, rfl, fun kind => absurd kind (lastSearch?_eq_none place found)⟩
  | some last =>
    obtain ⟨⟨old, there, search⟩, bound⟩ := lastSearch?_eq_some place
    refine ⟨session.tasks.modify last LookupTask.cancel, List.length_modify _ _ _, ?_,
      fun {task held} found => ?_⟩
    · simp only [LookupSession.search, place, cancel, there, releaseTask_restart]
      rfl
    · -- The last search is over now, and the ones before it stay as they were.
      by_cases same : last = task
      · subst same
        obtain ⟨done, kind⟩ := cancel_over old
        simp only [List.getElem?_modify_eq, there, Option.map_eq_map, Option.map_some,
          Option.some.injEq] at found
        subst found
        exact ⟨old, there, kind, fun _ pending => absurd pending (by simp [done])⟩
      -- This one is an earlier search at most, and the last one stands behind it.
      · rw [List.getElem?_modify_ne _ _ same] at found
        refine ⟨held, found, rfl, fun kind pending => ⟨pending, last, ?_, old, there, search⟩⟩
        exact Nat.lt_of_le_of_ne (bound found kind) (Ne.symm same)

/-- A search starts over: it is the last one from now on, and the one before it is over. -/
theorem search_handling (session : LookupSession) (term : Json) :
    session.Handling (session.search term) := by
  obtain ⟨tasks, length, searched, kept⟩ := search_tasks session term
  rw [searched]
  -- A task that stands elsewhere than the new one is one of those before it.
  have earlier : ∀ {task : Nat} {held : LookupTask} {added : LookupTask},
      task ≠ session.tasks.length → (tasks ++ [added])[task]? = some held →
      tasks[task]? = some held := by
    intro task held added other found
    rwa [getElem?_append_others _ (length ▸ other)] at found
  refine .restarted rfl ?_ (fun task search => ?_) fun task goesOn other => ?_
  · rw [← length]
    exact List.getElem?_concat_length
  · obtain ⟨held, found, -⟩ := search
    obtain ⟨inside, -⟩ := List.getElem?_eq_some_iff.mp found
    simp only [List.length_append, List.length_singleton, length] at inside
    exact Nat.le_of_lt_succ inside
  · obtain ⟨held, found, kind, pending⟩ := goesOn
    obtain ⟨old, before, same, followed⟩ := kept (earlier other found)
    obtain ⟨went, later⟩ := followed kind pending
    exact ⟨⟨old, before, same.symm.trans kind, went⟩, later⟩

/-- A task whose request came to its end is over. -/
theorem settle_over (lookup : Lookup) (kind : TaskKind) (request : Request) (reply : Reply) :
    LookupTask.isPending ⟨kind, (settle lookup kind request reply).2⟩ = false := by
  unfold settle
  -- Whatever the reply, the task has a result or an error.
  split
  · split
    · rfl
    · split <;> rfl
  · split <;> rfl

/-- A reply to a request for a live page clears the flag; one to any other request leaves it. -/
theorem settle_flag (lookup : Lookup) (kind : TaskKind) (request : Request) (reply : Reply) :
    let settled := (settle lookup kind request reply).1
    settled.generation = lookup.generation ∧
      (settled.loading = false ∨ settled.loading = lookup.loading ∧
        ∀ page, request = .page page → page.generation ≠ lookup.generation) := by
  -- A request is let go of, unless its page is accepted, which clears the flag in any case.
  have letGo : (settle lookup kind request reply).1.progress = lookup.progress.letGo request →
      _ := fun same => by
    have flag := letGo_flag lookup.progress request
    rw [← same] at flag
    exact flag
  cases request with
  | label request => exact letGo (settle_label lookup kind request reply)
  | page request =>
    have loaded := settle_page lookup kind request reply
    by_cases taken : (lookup.finishLoad request reply).2 = .ok true
    · obtain ⟨_, page, -, -, -, accepted⟩ := Lookup.finishLoad_eq_true taken
      have kept := loaded.trans accepted
      exact ⟨congrArg Progress.generation kept, .inl (congrArg Progress.loading kept)⟩
    · exact letGo (loaded.trans (Lookup.finishLoad_ne_true taken))

/-- A reply is the end of the task that waits for it. -/
theorem reply_handling (session : LookupSession) (call : Nat) (reply : Reply) :
    session.Handling (session.reply call reply) := by
  -- An answer that nobody waits for changes nothing.
  have ignored (lost : session.tasks.findIdx? (awaits call) = none ∨ session.calls[call]? = none) :
      session.Handling (session.reply call reply) := by
    rw [(reply_of_lost reply lost).2]
    exact .idle rfl rfl
  cases found : session.tasks.findIdx? (awaits call) with
  | none => exact ignored (.inl found)
  | some task =>
    cases made : session.calls[call]? with
    | none => exact ignored (.inr made)
    | some asked =>
      obtain ⟨kind, waits⟩ := findIdx?_awaits found
      obtain ⟨generation, flag⟩ := settle_flag session.lookup kind asked.request reply
      rw [reply_eq found waits made]
      refine .ended task _ ⟨kind, (settle session.lookup kind asked.request reply).2⟩ generation
        waits ?_ (settle_over _ _ _ _) rfl
        (fun _ distinct => List.getElem?_modify_ne _ _ (Ne.symm distinct)) ?_
      · simp [setTask, waits]
      · refine flag.imp_right fun ⟨kept, old⟩ => ⟨kept, fun other page pending => ?_⟩
        -- The task waited for this very request.
        cases pending.state waits
        cases made.symm.trans pending.made
        exact old page rfl

/-- What any event can do to the tasks and to the flag. -/
theorem step_handling (session : LookupSession) (event : LookupEvent) :
    session.Handling (session.step event) := by
  -- One lemma for each event. A choice touches no task.
  cases event with
  | load byScroll => exact load_handling session byScroll
  | scroll height top shown => exact scroll_handling session height top shown
  | toggle => exact toggle_handling session
  | search term => exact search_handling session term
  | label value => exact label_handling session value
  | select item => exact .idle rfl rfl
  | wake task => exact wake_handling session task
  | reply call reply => exact reply_handling session call reply
  | cancel task => exact cancel_handling session task

end LookupSession

end Flowchart
