import Flowchart.Proofs.Relation.Progress
import Flowchart.Relation.Session

/-! What one event can do to an option list in use: which tasks wait for which requests, and which
page is taken in. -/

namespace Flowchart

/-- A page that was taken in, and the request that it answered. -/
structure Acceptance where
  call : Nat
  request : PageRequest
  page : Page

namespace LookupSession

/-- A task waits for the answer to a request. -/
def Asks (session : LookupSession) (task call : Nat) : Prop :=
  ∃ kind, session.tasks[task]? = some ⟨kind, .asking call⟩

/-- The page that is taken in at an event, if one is. -/
def acceptance? (session : LookupSession) : LookupEvent → Option Acceptance
  | .reply call (.answer response) =>
    match session.isHeld call, session.calls[call]? with
    | true, some ⟨.page request, _⟩ =>
      match (session.lookup.finishLoad request (.answer response)).2, Page.ofAnswer response with
      | .ok true, .ok page => some ⟨call, request, page⟩
      | _, _ => none
    | _, _ => none
  | _ => none

/-- All requests but one are as they were, and that one is still the same request. -/
structure KeepsCalls (session next : LookupSession) (call : Nat) : Prop where
  others : ∀ other, other ≠ call → next.calls[other]? = session.calls[other]?
  request : (next.calls[call]?).map Call.request = (session.calls[call]?).map Call.request

/-- What an event can do to the requests and to the part of the list that loading works on. -/
inductive Move (session : LookupSession) : Option Acceptance → LookupSession → Prop where
  /-- Nothing is asked and no page is let go of. -/
  | quiet {next : LookupSession}
    (progress : next.lookup.progress = session.lookup.progress)
    (calls : next.calls = session.calls)
    (asks : ∀ task call, next.Asks task call → session.Asks task call) : Move session none next
  /-- The next page is asked for. -/
  | asked {next : LookupSession} (asker : Nat) (free : session.lookup.loading = false)
    (progress : next.lookup.progress = { session.lookup.progress with loading := true })
    (calls : next.calls = session.calls ++ [⟨.page session.lookup.request, none⟩])
    (asks : ∀ task call, next.Asks task call →
      session.Asks task call ∨ task = asker ∧ call = session.calls.length) :
    Move session none next
  /-- A label is asked for. -/
  | inquired {next : LookupSession} (asker : Nat) (request : LabelRequest)
    (progress : next.lookup.progress = session.lookup.progress)
    (calls : next.calls = session.calls ++ [⟨.label request, none⟩])
    (asks : ∀ task call, next.Asks task call →
      session.Asks task call ∨ task = asker ∧ call = session.calls.length) :
    Move session none next
  /-- A search starts over. -/
  | restarted {next : LookupSession} (term : Json)
    (progress : next.lookup.progress = session.lookup.progress.restart term)
    (calls : next.calls = session.calls)
    (asks : ∀ task call, next.Asks task call → session.Asks task call) : Move session none next
  /-- A request comes to its end without a page. -/
  | settled {next : LookupSession} {asker call : Nat} {request : Request}
    (asking : session.Asks asker call)
    (made : (session.calls[call]?).map Call.request = some request)
    (progress : next.lookup.progress = session.lookup.progress.letGo request)
    (calls : session.KeepsCalls next call)
    (asks : ∀ task other, next.Asks task other → session.Asks task other ∧ task ≠ asker) :
    Move session none next
  /-- A page is taken in. -/
  | accepted {next : LookupSession} {asker : Nat} {taken : Acceptance} {response : Json}
    (asking : session.Asks asker taken.call)
    (made : (session.calls[taken.call]?).map Call.request = some (.page taken.request))
    (current : taken.request.generation = session.lookup.generation)
    (read : Page.ofAnswer response = .ok taken.page)
    (progress : next.lookup.progress = session.lookup.progress.accept taken.page)
    (answered : next.calls[taken.call]? = some ⟨.page taken.request, some (.answer response)⟩)
    (calls : session.KeepsCalls next taken.call)
    (asks : ∀ task other, next.Asks task other → session.Asks task other ∧ task ≠ asker) :
    Move session (some taken) next

/-- A task that is added asks for what it was added with. -/
theorem asks_addTask {session : LookupSession} {kind : TaskKind} {state : TaskState}
    {task call : Nat} (asks : (session.addTask kind state).Asks task call) :
    session.Asks task call ∨ task = session.tasks.length ∧ state = .asking call := by
  -- The tasks that were there keep their places.
  obtain ⟨held, found⟩ := asks
  rw [addTask, List.getElem?_append] at found
  split at found
  · exact .inl ⟨held, found⟩
  · -- Behind the others there is only the task that was added.
    right
    cases place : task - session.tasks.length with
    | zero =>
      simp only [place, List.getElem?_cons_zero, Option.some.injEq, LookupTask.mk.injEq] at found
      exact ⟨by omega, found.2⟩
    | succ further => simp [place] at found

/-- A task that is added without a request leaves the others to ask for what they asked for. -/
theorem asks_addTask_idle {session : LookupSession} {kind : TaskKind} {state : TaskState}
    {task call : Nat} (asks : (session.addTask kind state).Asks task call)
    (idle : ∀ call, state ≠ .asking call) : session.Asks task call := by
  -- The new task asks for nothing, so whoever asks was there.
  obtain old | ⟨-, asking⟩ := asks_addTask asks
  · exact old
  · exact absurd asking (idle call)

/-- A task that is added with a request asks for it. -/
theorem asks_addTask_asking {session : LookupSession} {kind : TaskKind} {asked : Nat}
    {task call : Nat} (asks : (session.addTask kind (.asking asked)).Asks task call) :
    session.Asks task call ∨ task = session.tasks.length ∧ call = asked := by
  -- The new task asks for the one call.
  obtain old | ⟨added, asking⟩ := asks_addTask asks
  · exact .inl old
  · exact .inr ⟨added, (TaskState.asking.inj asking).symm⟩

/-- A task that is changed asks for what it was changed to, and the others ask for what they asked
for. -/
theorem asks_modify {session : LookupSession} {changed : Nat} {change : LookupTask → LookupTask}
    {task call : Nat} {lookup : Lookup} {calls : List Call}
    (asks : Asks ⟨lookup, session.tasks.modify changed change, calls⟩ task call) :
    session.Asks task call ∧ task ≠ changed ∨
      task = changed ∧ ∃ old kind, change old = ⟨kind, .asking call⟩ := by
  obtain ⟨kind, found⟩ := asks
  rw [List.getElem?_modify] at found
  -- A place that was empty stays empty, and one that holds a task holds it or its change.
  cases before : session.tasks[task]? with
  | none => simp [before] at found
  | some old =>
    by_cases same : changed = task
    · simp only [before, same, if_true, Option.map_eq_map, Option.map_some,
        Option.some.injEq] at found
      exact .inr ⟨same.symm, old, kind, found⟩
    · simp only [before, same, if_false, Option.map_eq_map, Option.map_some,
        Option.some.injEq] at found
      exact .inl ⟨⟨kind, before.trans (congrArg some found)⟩, Ne.symm same⟩

/-- A task asks for what its state says, and the others ask for what they asked for. -/
theorem asks_setTask {session : LookupSession} {changed : Nat} {state : TaskState}
    {task call : Nat} (asks : (session.setTask changed state).Asks task call) :
    session.Asks task call ∧ task ≠ changed ∨ task = changed ∧ state = .asking call := by
  -- A task elsewhere is as it was, and the task itself is in the new state.
  obtain others | ⟨same, old, kind, set⟩ := asks_modify asks
  · exact .inl others
  · exact .inr ⟨same, congrArg LookupTask.state set⟩

/-- A task that comes to its end leaves the others to ask for what they asked for. -/
theorem asks_setTask_idle {session : LookupSession} {changed : Nat} {state : TaskState}
    {task call : Nat} (asks : (session.setTask changed state).Asks task call)
    (idle : ∀ call, state ≠ .asking call) : session.Asks task call ∧ task ≠ changed := by
  -- The task asks for nothing any more.
  obtain others | ⟨-, asking⟩ := asks_setTask asks
  · exact others
  · exact absurd asking (idle call)

/-- A task that was cancelled waits for nothing. -/
theorem cancel_ne_asking (task : LookupTask) (kind : TaskKind) (call : Nat) :
    task.cancel ≠ ⟨kind, .asking call⟩ := by
  -- A task that waits would have been pending, and those that were are cancelled now.
  intro asking
  by_cases pending : task.isPending = true
  · simp [LookupTask.cancel, pending] at asking
  · rw [LookupTask.cancel, if_neg pending] at asking
    simp [LookupTask.isPending, asking] at pending

/-- Cancelling a task leaves the others to ask for what they asked for. -/
theorem asks_cancelTask {session : LookupSession} {cancelled task call : Nat}
    {lookup : Lookup} {calls : List Call}
    (asks : Asks ⟨lookup, session.tasks.modify cancelled LookupTask.cancel, calls⟩ task call) :
    session.Asks task call ∧ task ≠ cancelled := by
  -- A cancelled task asks for nothing.
  obtain others | ⟨-, old, kind, asking⟩ := asks_modify asks
  · exact others
  · exact absurd asking (cancel_ne_asking old kind call)

/-- A task that is added without a request changes nothing that loading works on. -/
theorem addTask_move {session : LookupSession} {lookup : Lookup} {kind : TaskKind}
    {state : TaskState} (same : lookup.progress = session.lookup.progress)
    (idle : ∀ call, state ≠ .asking call) :
    session.Move none ({ session with lookup }.addTask kind state) :=
  .quiet same rfl fun _ _ asks => asks_addTask_idle asks idle

/-- A task that ends changes nothing that loading works on. -/
theorem setTask_move {session : LookupSession} {task : Nat} {state : TaskState}
    (idle : ∀ call, state ≠ .asking call) : session.Move none (session.setTask task state) :=
  .quiet rfl rfl fun _ _ asks => (asks_setTask_idle asks idle).1

/-- A task that begins to load is added with the request for the next page. -/
theorem beginLoad_move {session : LookupSession} {lookup next : Lookup} {byScroll : Bool}
    {request : PageRequest} (kind : TaskKind) (same : lookup.progress = session.lookup.progress)
    (begun : lookup.beginLoad byScroll = some (request, next)) :
    session.Move none
      (({ session with lookup := next }.addTask kind (.asking session.calls.length)).call
        (.page request)) := by
  -- What was changed before loading, if anything, has no part in what is asked for.
  obtain ⟨free, asked, rfl⟩ := Lookup.beginLoad_eq_some begun
  have unloading : session.lookup.loading = false :=
    (congrArg Progress.loading same).symm.trans free
  have request_eq : request = session.lookup.request := asked.trans (Lookup.request_congr same)
  refine .asked session.tasks.length unloading ?_ (by rw [request_eq]; rfl)
    fun _ _ asks => asks_addTask_asking asks
  show { lookup.progress with loading := true } = _
  rw [same]

/-- Loading asks for the next page or does nothing. -/
theorem load_move (session : LookupSession) (byScroll : Bool) :
    session.Move none (session.load byScroll) := by
  unfold load
  -- A refused load asks for nothing.
  split
  · exact addTask_move rfl nofun
  · rename_i begun
    exact beginLoad_move .load rfl begun

/-- Scrolling loads, or does nothing. -/
theorem scroll_move (session : LookupSession) (height top shown : Json) :
    session.Move none (session.scroll height top shown) := by
  unfold scroll
  -- Only the first outcome of the position loads.
  split
  · exact load_move session true
  · exact addTask_move rfl nofun
  · exact addTask_move rfl nofun

/-- Opening the list asks for the next page or does not touch what was loaded. -/
theorem toggle_move (session : LookupSession) : session.Move none session.toggle := by
  -- A list that was opened before only flips, and so does one that may not load.
  unfold toggle
  dsimp only
  split
  · exact addTask_move rfl nofun
  · rename_i begun
    split at begun
    · cases begun
    · have same : session.lookup.markOpened.progress = session.lookup.progress := rfl
      exact beginLoad_move .toggle same begun

/-- A list that starts over has nothing left to let go of. -/
theorem releaseTask_restart (calls : List Call) (lookup : Lookup) (term : Json)
    (task : LookupTask) : releaseTask calls (lookup.restart term) task = lookup.restart term := by
  -- Letting go of a request clears the loading flag at most, and that is clear already.
  have kept (request : PageRequest) :
      (lookup.restart term).release request = lookup.restart term := by
    unfold Lookup.release
    split <;> rfl
  unfold releaseTask
  split
  · split
    · exact kept _
    · rfl
  · rfl

/-- A search starts over, and asks for nothing yet. -/
theorem search_move (session : LookupSession) (term : Json) :
    session.Move none (session.search term) := by
  -- The task of the search only rests, and the search before it is cancelled at most.
  unfold search
  dsimp only
  split
  · rename_i task last
    unfold cancel
    split
    · exact .restarted term rfl rfl fun _ _ asks => asks_addTask_idle asks nofun
    · rename_i old found
      refine .restarted term ?_ rfl fun _ _ asks =>
        (asks_cancelTask (asks_addTask_idle asks nofun)).1
      simp only [releaseTask_restart]
      rfl
  · exact .restarted term rfl rfl fun _ _ asks => asks_addTask_idle asks nofun

/-- Showing a label asks for it at most. -/
theorem label_move (session : LookupSession) (value : Json) :
    session.Move none (session.label value) := by
  unfold label
  -- A label that is shown already is not asked for.
  split
  · exact addTask_move rfl nofun
  · rename_i request lookup begun
    have same : lookup.progress = session.lookup.progress := Lookup.beginLabel_progress begun
    exact .inquired session.tasks.length request same rfl fun _ _ asks => asks_addTask_asking asks

/-- A search that begins asks for the next page or ends. -/
theorem beginSearch_move (session : LookupSession) (task generation : Nat) :
    session.Move none (session.beginSearch task generation) := by
  unfold beginSearch
  split
  · split
    · exact setTask_move nofun
    · rename_i request lookup begun
      -- The task of the search itself goes on to ask.
      obtain ⟨free, rfl, rfl⟩ := Lookup.beginLoad_eq_some begun
      refine .asked task free rfl rfl fun other call asks => ?_
      obtain ⟨old, -⟩ | ⟨same, asking⟩ := asks_setTask asks
      · exact .inl old
      · exact .inr ⟨same, (TaskState.asking.inj asking).symm⟩
  · exact setTask_move nofun

/-- A pause that ends begins a search at most. -/
theorem wake_move (session : LookupSession) (task : Nat) :
    session.Move none (session.wake task) := by
  unfold wake
  -- A task that does not rest is not woken.
  split
  · exact beginSearch_move session task _
  · exact setTask_move nofun
  · exact .quiet rfl rfl fun _ _ asks => asks

/-- Cancelling a task lets go of the page that it asked for. -/
theorem cancel_move (session : LookupSession) (task : Nat) :
    session.Move none (session.cancel task) := by
  -- A task may wait for a page, wait for a label, rest, or have ended.
  unfold cancel
  split
  · exact .quiet rfl rfl fun _ _ asks => asks
  · rename_i old found
    unfold releaseTask
    split
    · rename_i call asking
      have asks : session.Asks task call := ⟨old.kind, by rw [found, ← asking]⟩
      split
      · rename_i request _ made
        exact .settled asks (by rw [made]; rfl)
          (Lookup.release_progress session.lookup request) ⟨fun _ _ => rfl, rfl⟩
          fun _ _ => asks_cancelTask
      · exact .quiet rfl rfl fun _ _ asks => (asks_cancelTask asks).1
    · exact .quiet rfl rfl fun _ _ asks => (asks_cancelTask asks).1

/-- A task that is found to wait for an answer asks for it. -/
theorem findIdx?_awaits {session : LookupSession} {call task : Nat}
    (found : session.tasks.findIdx? (awaits call) = some task) : session.Asks task call := by
  -- What is found stands in its place and passes the test.
  obtain ⟨inside, waiting, -⟩ := List.findIdx?_eq_some_iff_getElem.mp found
  simp only [awaits, decide_eq_true_eq] at waiting
  exact ⟨session.tasks[task].kind, by rw [List.getElem?_eq_getElem inside, ← waiting]⟩

/-- A reply to a request for a label ends the request, whatever the task was for. -/
theorem settle_label_lookup (lookup : Lookup) (kind : TaskKind) (request : LabelRequest)
    (reply : Reply) :
    (settle lookup kind (.label request) reply).1 = (lookup.finishLabel request reply).1 := by
  -- How the task ends does not change what the list shows.
  unfold settle
  dsimp only
  split <;> rename_i ended <;> rw [ended]

/-- A reply to a request for a label changes nothing that loading works on. -/
theorem settle_label (lookup : Lookup) (kind : TaskKind) (request : LabelRequest) (reply : Reply) :
    (settle lookup kind (.label request) reply).1.progress = lookup.progress := by
  rw [settle_label_lookup, Lookup.finishLabel_progress]

/-- A reply to a request for a page loads it, whatever the task was for. -/
theorem settle_page (lookup : Lookup) (kind : TaskKind) (request : PageRequest) (reply : Reply) :
    (settle lookup kind (.page request) reply).1.progress =
      (lookup.finishLoad request reply).1.progress := by
  unfold settle
  dsimp only
  split
  · rename_i ended
    rw [ended]
  · rename_i ended
    rw [ended]
    -- A toggle flips the list as well, which loading does not look at.
    split <;> rfl

/-- A task whose request came to its end waits for nothing. -/
theorem settle_ne_asking (lookup : Lookup) (kind : TaskKind) (request : Request) (reply : Reply)
    (call : Nat) : (settle lookup kind request reply).2 ≠ .asking call := by
  unfold settle
  -- Each way to settle ends in a result or an error.
  split
  · split
    · nofun
    · split <;> nofun
  · split <;> nofun

/-- A reply that the list refuses brings no page. -/
theorem acceptance?_of_refused {session : LookupSession} {call : Nat} {request : PageRequest}
    {earlier : Option Reply} {reply : Reply}
    (held : session.calls[call]? = some ⟨.page request, earlier⟩)
    (refused : (session.lookup.finishLoad request reply).2 ≠ .ok true) :
    session.acceptance? (.reply call reply) = none := by
  cases reply with
  | unavailable => rfl
  | broken message => rfl
  | answer response =>
    simp only [acceptance?, held]
    -- The page would be there only if the list had taken it in.
    cases session.isHeld call with
    | false => rfl
    | true =>
      dsimp only
      split
      · exact absurd ‹_› refused
      · rfl

section Reply

variable {session : LookupSession} {call task : Nat} {kind : TaskKind} {made : Call}
  (found : session.tasks.findIdx? (awaits call) = some task)
  (waits : session.tasks[task]? = some ⟨kind, .asking call⟩)
  (held : session.calls[call]? = some made) (reply : Reply)

include found waits held

/-- The session once the task that waits for a reply has it. -/
theorem reply_eq :
    session.reply call reply =
      ({ session with
        lookup := (settle session.lookup kind made.request reply).1
        calls := session.calls.set call { made with reply := some reply } }).setTask task
          (settle session.lookup kind made.request reply).2 := by
  -- The task is found, and so is the call, so the reply is settled.
  simp only [LookupSession.reply, found, held, waits]

/-- The list once there is a reply. -/
theorem reply_lookup :
    (session.reply call reply).lookup = (settle session.lookup kind made.request reply).1 := by
  -- The state of the task is no part of the list.
  rw [reply_eq found waits held]
  rfl

/-- A reply is noted with its request. -/
theorem reply_answered :
    (session.reply call reply).calls[call]? = some { made with reply := some reply } := by
  -- The call is one of those that were made, so the reply finds its place.
  obtain ⟨inside, -⟩ := List.getElem?_eq_some_iff.mp held
  rw [reply_eq found waits held]
  exact List.getElem?_set_self inside

/-- A reply that is noted leaves all requests as they were made. -/
theorem reply_keepsCalls : session.KeepsCalls (session.reply call reply) call where
  -- The reply is noted at its own call, beside the request that call made.
  others other distinct := by
    rw [reply_eq found waits held]
    exact List.getElem?_set_ne (Ne.symm distinct)
  request := by
    rw [reply_answered found waits held, held]
    rfl

/-- The task that waited for a reply waits no longer, and the others wait for what they waited
for. -/
theorem asks_reply {other asked : Nat} (asks : (session.reply call reply).Asks other asked) :
    session.Asks other asked ∧ other ≠ task := by
  -- The task that has the reply is over, and no other changed.
  rw [reply_eq found waits held] at asks
  exact asks_setTask_idle asks (settle_ne_asking _ _ _ _)

/-- A reply to a request for a label ends the request. -/
theorem reply_label_move {request : LabelRequest} (label : made.request = .label request) :
    session.Move none (session.reply call reply) := by
  -- A label lets no page go, and takes none in.
  refine .settled ⟨kind, waits⟩ (by rw [held]; rfl) ?_ (reply_keepsCalls found waits held reply)
    fun _ _ asks => asks_reply found waits held reply asks
  rw [reply_lookup found waits held, label, settle_label]
  rfl

/-- A reply to a request for a page ends the request, and hands over the page if there is one. -/
theorem reply_page_move {request : PageRequest} (page : made.request = .page request) :
    session.Move (session.acceptance? (.reply call reply)) (session.reply call reply) := by
  have awaited : session.isHeld call = true := by
    rw [isHeld, ← List.findIdx?_isSome, found]
    rfl
  have progress : (session.reply call reply).lookup.progress =
      (session.lookup.finishLoad request reply).1.progress := by
    rw [reply_lookup found waits held, page, settle_page]
  have request_eq : (session.calls[call]?).map Call.request = some (.page request) := by
    rw [held, Option.map_some, page]
  have calls := reply_keepsCalls found waits held reply
  have answered := reply_answered found waits held reply
  -- The request is put in place of the equation, so that the call can be rewritten.
  obtain ⟨_, earlier⟩ := made
  cases page
  -- Whether the page is taken in is told by the list itself.
  by_cases taken : (session.lookup.finishLoad request reply).2 = .ok true
  · obtain ⟨response, page, rfl, read, current, loaded⟩ := Lookup.finishLoad_eq_true taken
    have accepted : session.acceptance? (.reply call (.answer response)) =
        some ⟨call, request, page⟩ := by
      simp [acceptance?, awaited, held, taken, read]
    rw [accepted]
    exact .accepted ⟨kind, waits⟩ request_eq current read (progress.trans loaded) answered calls
      fun _ _ asks => asks_reply found waits held _ asks
  · rw [acceptance?_of_refused held taken]
    exact .settled ⟨kind, waits⟩ request_eq (progress.trans (Lookup.finishLoad_ne_true taken)) calls
      fun _ _ asks => asks_reply found waits held reply asks

end Reply

/-- A reply to a request that nobody waits for is lost. -/
theorem reply_of_lost {session : LookupSession} {call : Nat} (reply : Reply)
    (lost : session.tasks.findIdx? (awaits call) = none ∨ session.calls[call]? = none) :
    session.acceptance? (.reply call reply) = none ∧ session.reply call reply = session := by
  have awaited : session.isHeld call = (session.tasks.findIdx? (awaits call)).isSome :=
    List.findIdx?_isSome.symm
  -- Without a waiting task or without the call the step does nothing, and nothing is taken in.
  rcases lost with nobody | never
  · rw [nobody] at awaited
    refine ⟨?_, by rw [LookupSession.reply, nobody]⟩
    cases reply <;> simp [acceptance?, awaited]
  · refine ⟨?_, ?_⟩
    · cases reply <;> simp [acceptance?, never]
    · rw [LookupSession.reply, never]
      cases session.tasks.findIdx? (awaits call) <;> rfl

/-- A reply ends a request; an answer to the search at hand is taken in if it makes sense. -/
theorem reply_move (session : LookupSession) (call : Nat) (reply : Reply) :
    session.Move (session.acceptance? (.reply call reply)) (session.reply call reply) := by
  -- A lost reply is a quiet move.
  have ignored (lost : session.tasks.findIdx? (awaits call) = none ∨ session.calls[call]? = none) :
      session.Move (session.acceptance? (.reply call reply)) (session.reply call reply) := by
    obtain ⟨nothing, same⟩ := reply_of_lost reply lost
    rw [nothing, same]
    exact .quiet rfl rfl fun _ _ asks => asks
  cases found : session.tasks.findIdx? (awaits call) with
  | none => exact ignored (.inl found)
  | some task =>
    cases held : session.calls[call]? with
    | none => exact ignored (.inr held)
    | some made =>
      obtain ⟨kind, waits⟩ := findIdx?_awaits found
      -- A label takes no page in, and a page is decided by the list.
      cases asked : made.request with
      | label request =>
        have nothing : session.acceptance? (.reply call reply) = none := by
          obtain ⟨_, _⟩ := made
          cases asked
          cases reply <;> simp [acceptance?, held]
        rw [nothing]
        exact reply_label_move found waits held reply asked
      | page request => exact reply_page_move found waits held reply asked

/-- An event is one of the moves, and takes in the page that it is said to. -/
theorem step_move (session : LookupSession) (event : LookupEvent) :
    session.Move (session.acceptance? event) (session.step event) := by
  -- One lemma for each event, with the acceptance told by the reply alone.
  cases event with
  | load byScroll => exact load_move session byScroll
  | scroll height top shown => exact scroll_move session height top shown
  | toggle => exact toggle_move session
  | search term => exact search_move session term
  | label value => exact label_move session value
  | select item => exact .quiet rfl rfl fun _ _ asks => asks
  | wake task => exact wake_move session task
  | reply call reply => exact reply_move session call reply
  | cancel task => exact cancel_move session task

end LookupSession

end Flowchart
