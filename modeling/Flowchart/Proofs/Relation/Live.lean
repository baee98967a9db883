import Flowchart.Proofs.Relation.Handling

/-! The loading flag of an option list is set exactly while a page of the search at hand is on its
way, and of all searches only the one that was started last may still go on. -/

namespace Flowchart

namespace LookupSession

/-- A task waits for a page of the search at hand, asked for under a number. -/
def Live (session : LookupSession) (call : Nat) : Prop :=
  ∃ task request, session.Pends task call (.page request) ∧
    request.generation = session.lookup.generation

/-- A task rests in the generation at hand, or waits for a page of it. -/
def IsCurrent (session : LookupSession) (task : Nat) : Prop :=
  (∃ kind, session.tasks[task]? = some ⟨kind, .resting session.lookup.generation⟩) ∨
    ∃ call request, session.Pends task call (.page request) ∧
      request.generation = session.lookup.generation

/-- A request keeps its number and stays what it was. -/
theorem Move.request_kept {session next : LookupSession} {taken : Option Acceptance}
    (move : session.Move taken next) {call : Nat} {request : Request}
    (made : (session.calls[call]?).map Call.request = some request) :
    (next.calls[call]?).map Call.request = some request := by
  -- A call is added behind the others or answered in its place, and never asked anew.
  have appended (added : Call) :
      ((session.calls ++ [added])[call]?).map Call.request = some request := by
    obtain ⟨earlier, found, same⟩ := Option.map_eq_some_iff.mp made
    rw [getElem?_append_kept added found, Option.map_some, same]
  have noted {answered : Nat} (calls : session.KeepsCalls next answered) :
      (next.calls[call]?).map Call.request = some request := by
    by_cases same : call = answered
    · rw [same, calls.request, ← same, made]
    · rw [calls.others call same, made]
  cases move with
  | quiet _ calls => rwa [calls]
  | asked _ _ _ calls => rw [calls]; exact appended _
  | inquired _ _ _ calls => rw [calls]; exact appended _
  | restarted _ _ calls => rwa [calls]
  | settled _ _ _ calls => exact noted calls
  | accepted _ _ _ _ _ _ calls => exact noted calls

/-- The generation never falls. -/
theorem Move.generation_le {session next : LookupSession} {taken : Option Acceptance}
    (move : session.Move taken next) :
    session.lookup.generation ≤ next.lookup.generation := by
  have kept {generation : Nat} (same : next.lookup.generation = generation)
      (le : session.lookup.generation ≤ generation) :
      session.lookup.generation ≤ next.lookup.generation := same ▸ le
  -- Only a search opens a generation. All other moves keep the one at hand.
  cases move with
  | quiet progress => exact kept (congrArg Progress.generation progress) (Nat.le_refl _)
  | asked _ _ progress => exact kept (congrArg Progress.generation progress) (Nat.le_refl _)
  | inquired _ _ progress => exact kept (congrArg Progress.generation progress) (Nat.le_refl _)
  | restarted _ progress => exact kept (congrArg Progress.generation progress) (Nat.le_succ _)
  | settled _ _ progress =>
    rw [Progress.letGo_eq] at progress
    exact kept (congrArg Progress.generation progress) (Nat.le_refl _)
  | accepted _ _ _ _ progress =>
    exact kept (congrArg Progress.generation progress) (Nat.le_refl _)

/-- The flag and the searches agree with what goes on. -/
structure Alive (session : LookupSession) : Prop where
  /-- Nothing but a live page keeps the list from loading. -/
  busy : session.lookup.loading = true → ∃ call, session.Live call
  /-- A search that goes on belongs to the generation at hand. -/
  current : ∀ {task}, session.GoesOn task → session.IsCurrent task
  /-- No search was started after one that goes on. -/
  last : ∀ {task other}, session.GoesOn task → session.IsSearch other → other ≤ task

/-- Nothing goes on at first. -/
theorem start_alive (lookup : Lookup) (free : lookup.loading = false) : (start lookup).Alive where
  -- There is no task yet, and the flag is clear.
  busy := fun loading => absurd loading (by simp [start, free])
  current := fun ⟨_, found, _⟩ => by simp [start] at found
  last := fun ⟨_, found, _⟩ => by simp [start] at found

section Step

variable {session next : LookupSession}

/-- A search that goes on is a search. -/
theorem GoesOn.isSearch {task : Nat} (goesOn : session.GoesOn task) : session.IsSearch task := by
  -- A search that goes on is a search.
  obtain ⟨held, found, kind, -⟩ := goesOn
  exact ⟨held, found, kind⟩

/-- A search that goes on, and stayed as it was, went on before. -/
theorem GoesOn.congr {task : Nat} (goesOn : next.GoesOn task)
    (same : next.tasks[task]? = session.tasks[task]?) : session.GoesOn task := by
  -- The task is read from the place that did not change.
  obtain ⟨held, found, searching⟩ := goesOn
  exact ⟨held, same.symm.trans found, searching⟩

/-- A search that stayed as it was has been one before. -/
theorem IsSearch.congr {task : Nat} (searched : next.IsSearch task)
    (same : next.tasks[task]? = session.tasks[task]?) : session.IsSearch task := by
  -- The task is read from the place that did not change.
  obtain ⟨held, found, searching⟩ := searched
  exact ⟨held, same.symm.trans found, searching⟩

/-- A task that stays as it is still waits for the same request. -/
theorem Pends.keep {taken : Option Acceptance} (sound : session.Consistent)
    (move : session.Move taken next) {task call : Nat} {request : Request}
    (pending : session.Pends task call request)
    (same : next.tasks[task]? = session.tasks[task]?) : next.Pends task call request := by
  -- Such a task waits for some request in the consistent session that follows, under this number.
  obtain ⟨kind, found⟩ := pending.asks
  obtain ⟨asked, pends⟩ := (sound.move move).pends ⟨kind, same.trans found⟩
  have made := move.request_kept (congrArg (Option.map Call.request) pending.made)
  rw [pends.made] at made
  cases made
  exact pends

/-- A task that stays as it is belongs to the same generation. -/
theorem IsCurrent.keep {taken : Option Acceptance} (sound : session.Consistent)
    (move : session.Move taken next) {task : Nat} (current : session.IsCurrent task)
    (generation : next.lookup.generation = session.lookup.generation)
    (same : next.tasks[task]? = session.tasks[task]?) : next.IsCurrent task := by
  -- The search rests as before, or it waits for the same page of the same generation.
  obtain ⟨kind, rests⟩ | ⟨call, request, pending, equal⟩ := current
  · exact .inl ⟨kind, by rw [same, rests, generation]⟩
  · exact .inr ⟨call, request, pending.keep sound move same, equal.trans generation.symm⟩

/-- A live page is still on its way if the task that waits for it stays as it is. -/
theorem Live.keep {taken : Option Acceptance} (sound : session.Consistent)
    (move : session.Move taken next) {call : Nat} (live : session.Live call)
    (generation : next.lookup.generation = session.lookup.generation)
    (same : ∀ task request, session.Pends task call (.page request) →
      request.generation = session.lookup.generation →
      next.tasks[task]? = session.tasks[task]?) : next.Live call := by
  -- The task that waits for the page is the one that did not change.
  obtain ⟨task, request, pending, equal⟩ := live
  exact ⟨task, request, pending.keep sound move (same task request pending equal),
    equal.trans generation.symm⟩

/-- In the same generation the agreement is kept if no search is new, and each that goes on stays as
it was or is current anyway. -/
theorem Alive.keep {taken : Option Acceptance} (alive : session.Alive)
    (sound : session.Consistent) (move : session.Move taken next)
    (generation : next.lookup.generation = session.lookup.generation)
    (busy : next.lookup.loading = true → ∃ call, next.Live call)
    (before : ∀ task, next.GoesOn task → session.GoesOn task ∧
      (next.tasks[task]? = session.tasks[task]? ∨ next.IsCurrent task))
    (known : ∀ task, next.IsSearch task → session.IsSearch task) : next.Alive where
  -- Whoever goes on went on before, so the three parts are carried over task by task.
  busy := busy
  current goesOn := by
    obtain ⟨went, same | current⟩ := before _ goesOn
    · exact (alive.current went).keep sound move generation same
    · exact current
  last goesOn searched := alive.last (before _ goesOn).1 (known _ searched)

/-- Whatever is done, the flag and the searches agree with what goes on. -/
theorem Alive.step {taken : Option Acceptance} (alive : session.Alive)
    (sound : session.Consistent) (move : session.Move taken next)
    (handling : session.Handling next) : next.Alive := by
  cases handling with
  | passed generation loading kept searches =>
    have same {task : Nat} {held : LookupTask} (found : session.tasks[task]? = some held) :
        next.tasks[task]? = session.tasks[task]? := (kept task held found).trans found.symm
    -- No task that was there changed, so the live page is waited for as before.
    refine alive.keep sound move generation (fun busy => ?_) (fun task goesOn => ?_)
      fun task searched => ?_
    · obtain ⟨call, live⟩ := alive.busy (loading.symm.trans busy)
      refine ⟨call, live.keep sound move generation fun task request pending _ => ?_⟩
      obtain ⟨_, found⟩ := pending.asks
      exact same found
    · obtain ⟨held, found, kind, pending⟩ := goesOn
      have there := searches task held found kind
      exact ⟨⟨held, there, kind, pending⟩, .inl (same there)⟩
    · obtain ⟨held, found, kind⟩ := searched
      exact ⟨held, searches task held found kind, kind⟩
  | asked asker kind generation asks made search others =>
    have pends : next.Pends asker session.calls.length (.page session.lookup.request) :=
      ⟨⟨kind, asks⟩, made⟩
    -- The task that asks is no other search than one that went on before.
    have went {held : LookupTask} (found : next.tasks[asker]? = some held)
        (searching : held.kind = .search) : session.GoesOn asker := by
      cases asks.symm.trans found
      exact search searching
    -- The flag is set for the page that is asked now, which is live.
    refine alive.keep sound move generation (fun _ => ⟨_, asker, _, pends, generation.symm⟩)
      (fun task goesOn => ?_) fun task searched => ?_
    · by_cases same : task = asker
      · subst same
        obtain ⟨held, found, searching, -⟩ := goesOn
        exact ⟨went found searching, .inr (.inr ⟨_, _, pends, generation.symm⟩)⟩
      · exact ⟨goesOn.congr (others task same), .inl (others task same)⟩
    · by_cases same : task = asker
      · subst same
        obtain ⟨held, found, searching⟩ := searched
        exact (went found searching).isSearch
      · exact searched.congr (others task same)
  | ended ender old new generation held stands done kind others flag =>
    refine alive.keep sound move generation (fun busy => ?_) (fun task goesOn => ?_)
      fun task searched => ?_
    · -- The flag is still set, so the task that is over waited for no live page.
      obtain free | ⟨loading, older⟩ := flag
      · exact Bool.noConfusion (free.symm.trans busy)
      · obtain ⟨call, live⟩ := alive.busy (loading.symm.trans busy)
        refine ⟨call, live.keep sound move generation fun task request pending equal => ?_⟩
        refine others task ?_
        rintro rfl
        exact older call request pending equal
    -- The task that ended does not go on, so it is none of those.
    · have other : task ≠ ender := by
        rintro rfl
        obtain ⟨_, found, -, pending⟩ := goesOn
        cases stands.symm.trans found
        exact Bool.noConfusion (done.symm.trans pending)
      exact ⟨goesOn.congr (others task other), .inl (others task other)⟩
    · by_cases same : task = ender
      · subst same
        obtain ⟨_, found, searching⟩ := searched
        cases stands.symm.trans found
        exact ⟨old, held, kind.symm.trans searching⟩
      · exact searched.congr (others task same)
  | restarted free added bound older =>
    -- A search that went on was the last one, and that one is over now.
    have newest {task : Nat} (goesOn : next.GoesOn task) : task = session.tasks.length := by
      refine Decidable.byContradiction fun distinct => ?_
      obtain ⟨went, later, after, search⟩ := older task goesOn distinct
      exact absurd (alive.last went search) (Nat.not_le_of_lt after)
    refine ⟨fun busy => Bool.noConfusion (free.symm.trans busy), fun goesOn => ?_,
      fun goesOn searched => newest goesOn ▸ bound _ searched⟩
    rw [newest goesOn]
    exact .inl ⟨_, added⟩

end Step

/-- A run keeps the flag and the searches in agreement with what goes on, and the generation never
falls. -/
theorem run_alive (events : List LookupEvent) :
    ∀ {session : LookupSession}, session.Consistent → session.Alive →
      (session.run events).Consistent ∧ (session.run events).Alive ∧
        session.lookup.generation ≤ (session.run events).lookup.generation := by
  -- By induction on the events: the agreement is kept by an event of a consistent session.
  induction events with
  | nil =>
    intro session sound alive
    exact ⟨sound, alive, Nat.le_refl _⟩
  | cons event events ih =>
    intro session sound alive
    have move := session.step_move event
    obtain ⟨later, going, rising⟩ :=
      ih (sound.move move) (alive.step sound move (session.step_handling event))
    exact ⟨later, going, Nat.le_trans move.generation_le rising⟩

/-- Whatever happens to an option list, in whatever order and after whatever delay: its loading flag
is set exactly while a page of the search at hand is on its way, which is then the only one; at most
one search goes on, and it belongs to the generation at hand. What a search cuts off may let go of
its page at any later time and changes nothing. -/
theorem run_live (field : Field) (hasServer : Bool) (debounce scrollThreshold : Json)
    (events : List LookupEvent) :
    let session := (start (.start field hasServer debounce scrollThreshold)).run events
    (session.lookup.loading = true ↔ ∃ call, session.Live call) ∧
      (∀ call other, session.Live call → session.Live other → call = other) ∧
      (∀ task other, session.GoesOn task → session.GoesOn other → task = other) ∧
      (∀ task, session.GoesOn task → session.IsCurrent task) ∧
      ∀ (task call : Nat) (request : PageRequest) (term : Json) (later : List LookupEvent),
        session.Pends task call (.page request) →
        let lookup := ((session.search term).run later).lookup
        lookup.release request = lookup := by
  intro session
  obtain ⟨sound, alive, -⟩ := run_alive events (start_consistent _)
    (start_alive (.start field hasServer debounce scrollThreshold) rfl)
  refine ⟨⟨alive.busy, ?_⟩, ?_, fun task other goesOn equal => ?_, fun task => alive.current, ?_⟩
  -- A live page sets the flag by consistency. The converse was carried along the run.
  · rintro ⟨call, task, request, pending, current⟩
    exact (sound.current pending current).1
  · rintro call other ⟨task, request, pending, current⟩ ⟨holder, requested, held, equal⟩
    -- Both pages are waited for by the same task, which waits for one only.
    cases sound.single pending held current equal
    obtain ⟨_, found⟩ := held.asks
    cases pending.state found
    rfl
  · exact Nat.le_antisymm (alive.last equal goesOn.isSearch) (alive.last goesOn equal.isSearch)
  · intro task call request term later pending lookup
    have move : session.Move none (session.search term) := session.search_move term
    obtain ⟨-, -, rising⟩ := run_alive later (sound.move move)
      (alive.step sound move (session.search_handling term))
    -- The search opened a generation past that of the request, and none came back since.
    have past : request.generation < (session.search term).lookup.generation := by
      obtain ⟨tasks, -, searched, -⟩ := search_tasks session term
      rw [searched]
      exact Nat.lt_succ_of_le (sound.known pending)
    have old : request.generation ≠ lookup.generation :=
      Nat.ne_of_lt (Nat.lt_of_lt_of_le past rising)
    simp [Lookup.release, Lookup.isCurrent, old]

end LookupSession

end Flowchart
