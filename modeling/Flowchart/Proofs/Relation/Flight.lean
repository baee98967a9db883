import Flowchart.Proofs.Relation.Moves

/-! Which requests are on their way. However many searches left requests behind, at most one of
them belongs to the search at hand, and it asks for the next page. -/

namespace Flowchart

namespace LookupSession

/-- A task waits for the answer to a request that has none yet. -/
structure Pends (session : LookupSession) (task call : Nat) (request : Request) : Prop where
  asks : session.Asks task call
  made : session.calls[call]? = some ⟨request, none⟩

/-- The flags of the list agree with the requests on their way. -/
structure Consistent (session : LookupSession) : Prop where
  /-- What a task waits for was asked, and has no answer yet. -/
  pends : ∀ {task call}, session.Asks task call → ∃ request, session.Pends task call request
  /-- No two tasks wait for the same answer. -/
  alone : ∀ {task other call}, session.Asks task call → session.Asks other call → task = other
  /-- No page is asked for in a search to come. -/
  known : ∀ {task call request}, session.Pends task call (.page request) →
    request.generation ≤ session.lookup.generation
  /-- A page of the search at hand is the next one, and the list knows that it is on its way. -/
  current : ∀ {task call request}, session.Pends task call (.page request) →
    request.generation = session.lookup.generation →
    session.lookup.loading = true ∧ request = session.lookup.request
  /-- Only one page of the search at hand is on its way. -/
  single : ∀ {task other call called request requested},
    session.Pends task call (.page request) → session.Pends other called (.page requested) →
    request.generation = session.lookup.generation →
    requested.generation = session.lookup.generation → task = other

/-- Nothing is on its way at first. -/
theorem start_consistent (lookup : Lookup) : (start lookup).Consistent where
  -- There is no task yet, so nothing waits for a call.
  pends := fun ⟨_, found⟩ => by simp [start] at found
  alone := fun ⟨_, found⟩ => by simp [start] at found
  known := fun ⟨⟨_, found⟩, _⟩ => by simp [start] at found
  current := fun ⟨⟨_, found⟩, _⟩ => by simp [start] at found
  single := fun ⟨⟨_, found⟩, _⟩ => by simp [start] at found

/-- What stands in a list keeps its place when something is added behind it. -/
theorem getElem?_append_kept {α : Type} {items : List α} {place : Nat} {item : α} (later : α)
    (found : items[place]? = some item) : (items ++ [later])[place]? = some item := by
  -- A place that holds something is inside the old list.
  obtain ⟨inside, -⟩ := List.getElem?_eq_some_iff.mp found
  rw [List.getElem?_append_left inside, found]

/-- Requests on their way stay consistent when no new one is made and the search goes on: some may
have come to their end, and if the list was freed, so did the one for its next page. -/
theorem Consistent.carry {session next : LookupSession} (sound : session.Consistent)
    (asks : ∀ task call, next.Asks task call → session.Asks task call)
    (pends : ∀ task call request, next.Asks task call → session.Pends task call request →
      next.Pends task call request)
    (generation : next.lookup.generation = session.lookup.generation)
    (current : ∀ task call request, next.Asks task call → session.Pends task call (.page request) →
      request.generation = session.lookup.generation →
      next.lookup.loading = session.lookup.loading ∧
        next.lookup.request = session.lookup.request) :
    next.Consistent := by
  -- What is on its way now was on its way before.
  have earlier : ∀ {task call request}, next.Pends task call request →
      session.Pends task call request := by
    intro task call request pending
    obtain ⟨asked, before⟩ := sound.pends (asks _ _ pending.asks)
    have made := (pends _ _ _ pending.asks before).made
    rw [pending.made] at made
    cases made
    exact before
  -- The five parts in order. The first three speak of the tasks and the calls alone.
  refine ⟨fun asked => ?_, fun asked other => ?_, fun pending => ?_, fun pending same => ?_,
    fun pending other same equal => ?_⟩
  · obtain ⟨request, before⟩ := sound.pends (asks _ _ asked)
    exact ⟨request, pends _ _ _ asked before⟩
  · exact sound.alone (asks _ _ asked) (asks _ _ other)
  · rw [generation]
    exact sound.known (earlier pending)
  · rw [generation] at same
    obtain ⟨loading, request⟩ := current _ _ _ pending.asks (earlier pending) same
    rw [loading, request]
    exact sound.current (earlier pending) same
  · rw [generation] at same equal
    exact sound.single (earlier pending) (earlier other) same equal

section Asking

variable {session next : LookupSession} {asker : Nat}
  (asks : ∀ task call, next.Asks task call →
    session.Asks task call ∨ task = asker ∧ call = session.calls.length)

include asks

/-- Once a request is made, still no two tasks wait for the same answer. -/
theorem Consistent.alone_of_ask (sound : session.Consistent) {task other call : Nat}
    (asked : next.Asks task call) (equal : next.Asks other call) : task = other := by
  -- A request that was made before has another number than the one made now.
  have inside : ∀ {waiter}, session.Asks waiter call → call ≠ session.calls.length := by
    intro waiter waits
    obtain ⟨made, pending⟩ := sound.pends waits
    exact Nat.ne_of_lt (List.getElem?_eq_some_iff.mp pending.made).1
  obtain old | ⟨rfl, last⟩ := asks task call asked
  · obtain before | ⟨-, last⟩ := asks other call equal
    · exact sound.alone old before
    · exact absurd last (inside old)
  · obtain before | ⟨rfl, -⟩ := asks other call equal
    · exact absurd last (inside before)
    · rfl

variable {request : Request} (calls : next.calls = session.calls ++ [⟨request, none⟩])

include calls

/-- Once a request is made, what is on its way was so before or is that request. -/
theorem Consistent.pends_cases (sound : session.Consistent) {task call : Nat}
    (asked : next.Asks task call) :
    ∃ made, next.Pends task call made ∧
      (session.Pends task call made ∨
        task = asker ∧ call = session.calls.length ∧ made = request) := by
  -- Earlier requests keep their numbers, and the new one has the next number.
  obtain old | ⟨rfl, rfl⟩ := asks task call asked
  · obtain ⟨made, pending⟩ := sound.pends old
    exact ⟨made, ⟨asked, calls ▸ getElem?_append_kept _ pending.made⟩, .inl pending⟩
  · refine ⟨request, ⟨asked, ?_⟩, .inr ⟨rfl, rfl, rfl⟩⟩
    rw [calls, List.getElem?_concat_length]

/-- Once a request is made, a request on its way was so before or is that request. -/
theorem Consistent.pends_or (sound : session.Consistent) {task call : Nat} {made : Request}
    (pending : next.Pends task call made) :
    session.Pends task call made ∨ task = asker ∧ call = session.calls.length ∧ made = request := by
  -- A task waits for one request only.
  obtain ⟨other, found, known⟩ := sound.pends_cases asks calls pending.asks
  have same := found.made
  rw [pending.made] at same
  cases same
  exact known

end Asking

/-- What is on its way stays consistent when the request for the next page is made. -/
theorem Consistent.ask {session next : LookupSession} {asker : Nat} (sound : session.Consistent)
    (free : session.lookup.loading = false)
    (progress : next.lookup.progress = { session.lookup.progress with loading := true })
    (calls : next.calls = session.calls ++ [⟨.page session.lookup.request, none⟩])
    (asks : ∀ task call, next.Asks task call →
      session.Asks task call ∨ task = asker ∧ call = session.calls.length) :
    next.Consistent := by
  have generation : next.lookup.generation = session.lookup.generation :=
    congrArg Progress.generation progress
  -- The list was free, so no page of the search at hand was on its way.
  have none_current : ∀ {task call request}, session.Pends task call (.page request) →
      request.generation ≠ session.lookup.generation := by
    intro task call request pending same
    exact absurd (sound.current pending same).1 (by simp [free])
  have new_of_current : ∀ {task call request}, next.Pends task call (.page request) →
      request.generation = session.lookup.generation →
      task = asker ∧ request = session.lookup.request := by
    intro task call request pending same
    obtain old | ⟨rfl, -, made⟩ := sound.pends_or asks calls pending
    · exact absurd same (none_current old)
    · exact ⟨rfl, Request.page.inj made⟩
  -- The call that was added is the only one of the search at hand.
  refine ⟨fun asked => ?_, sound.alone_of_ask asks, fun pending => ?_,
    fun pending same => ?_, fun pending other same equal => ?_⟩
  · obtain ⟨made, pending, -⟩ := sound.pends_cases asks calls asked
    exact ⟨made, pending⟩
  · rw [generation]
    obtain old | ⟨-, -, made⟩ := sound.pends_or asks calls pending
    · exact sound.known old
    · cases made
      exact Nat.le_refl _
  · rw [generation] at same
    have loading : next.lookup.loading = true := congrArg Progress.loading progress
    have request_eq : next.lookup.request = session.lookup.request :=
      congrArg Progress.request progress
    -- Both the flag and the next request are those the asking left.
    exact ⟨loading, (new_of_current pending same).2.trans request_eq.symm⟩
  · rw [generation] at same equal
    exact (new_of_current pending same).1.trans (new_of_current other equal).1.symm

/-- What is on its way stays consistent when a label is asked for. -/
theorem Consistent.inquire {session next : LookupSession} {asker : Nat} {request : LabelRequest}
    (sound : session.Consistent) (progress : next.lookup.progress = session.lookup.progress)
    (calls : next.calls = session.calls ++ [⟨.label request, none⟩])
    (asks : ∀ task call, next.Asks task call →
      session.Asks task call ∨ task = asker ∧ call = session.calls.length) :
    next.Consistent := by
  have generation : next.lookup.generation = session.lookup.generation :=
    congrArg Progress.generation progress
  -- The new request is for no page, so nothing is added to the pages on their way.
  have old : ∀ {task call request}, next.Pends task call (.page request) →
      session.Pends task call (.page request) := by
    intro task call request pending
    obtain before | ⟨-, -, made⟩ := sound.pends_or asks calls pending
    · exact before
    · cases made
  -- The first two parts know the new call, the others speak of pages only.
  refine ⟨fun asked => ?_, sound.alone_of_ask asks, fun pending => ?_,
    fun pending same => ?_, fun pending other same equal => ?_⟩
  · obtain ⟨made, pending, -⟩ := sound.pends_cases asks calls asked
    exact ⟨made, pending⟩
  · rw [generation]
    exact sound.known (old pending)
  · rw [generation] at same
    have loading : next.lookup.loading = session.lookup.loading :=
      congrArg Progress.loading progress
    rw [loading, Lookup.request_congr progress]
    exact sound.current (old pending) same
  · rw [generation] at same equal
    exact sound.single (old pending) (old other) same equal

/-- What is on its way stays consistent when the search starts over: all of it belongs to searches
that are over. -/
theorem Consistent.restart {session next : LookupSession} (sound : session.Consistent) {term : Json}
    (progress : next.lookup.progress = session.lookup.progress.restart term)
    (calls : next.calls = session.calls)
    (asks : ∀ task call, next.Asks task call → session.Asks task call) : next.Consistent := by
  have generation : next.lookup.generation = session.lookup.generation + 1 :=
    congrArg Progress.generation progress
  -- The generation has grown past every request on its way.
  have older : ∀ {task call request}, next.Pends task call (.page request) →
      request.generation ≤ session.lookup.generation := fun pending =>
    sound.known ⟨asks _ _ pending.asks, calls ▸ pending.made⟩
  refine ⟨fun asked => ?_, fun asked other => sound.alone (asks _ _ asked) (asks _ _ other),
    fun pending => ?_, fun pending same => ?_, fun pending _ same => ?_⟩
  · obtain ⟨request, pending⟩ := sound.pends (asks _ _ asked)
    exact ⟨request, asked, calls ▸ pending.made⟩
  · exact Nat.le_of_lt (generation ▸ Nat.lt_succ_of_le (older pending))
  · have := older pending
    omega
  · have := older pending
    omega

/-- Noting the end of a request leaves the requests of the tasks that still wait as they are. -/
theorem Consistent.pends_of_ne {session next : LookupSession} {asker call : Nat}
    (sound : session.Consistent) (asking : session.Asks asker call)
    (calls : session.KeepsCalls next call)
    (asks : ∀ task other, next.Asks task other → session.Asks task other ∧ task ≠ asker)
    {task other : Nat} {request : Request} (asked : next.Asks task other)
    (pending : session.Pends task other request) : next.Pends task other request := by
  -- A task that still waits has another request than the one that ended.
  have distinct : other ≠ call := by
    rintro rfl
    exact (asks _ _ asked).2 (sound.alone pending.asks asking)
  exact ⟨asked, (calls.others other distinct).trans pending.made⟩

/-- What is on its way stays consistent when a request comes to its end: only the end of a request
for a page of the search at hand may change what was loaded. -/
theorem Consistent.finish {session next : LookupSession} {asker call : Nat} {request : Request}
    (sound : session.Consistent) (pending : session.Pends asker call request)
    (generation : next.lookup.generation = session.lookup.generation)
    (kept : (∀ page, request = .page page → page.generation ≠ session.lookup.generation) →
      next.lookup.progress = session.lookup.progress)
    (calls : session.KeepsCalls next call)
    (asks : ∀ task other, next.Asks task other → session.Asks task other ∧ task ≠ asker) :
    next.Consistent := by
  refine sound.carry (fun task other asked => (asks task other asked).1)
    (fun _ _ _ asked before => sound.pends_of_ne pending.asks calls asks asked before) generation ?_
  intro task other page asked before current
  have same : next.lookup.progress = session.lookup.progress := by
    refine kept fun ended made equal => ?_
    -- The request that ended would be the only one for a page of the search at hand.
    subst made
    exact (asks _ _ asked).2 (sound.single before pending current equal)
  exact ⟨congrArg Progress.loading same, Lookup.request_congr same⟩

/-- A request that a task waits for is on its way. -/
theorem Consistent.pends_of_made {session : LookupSession} (sound : session.Consistent)
    {asker call : Nat} {request : Request} (asking : session.Asks asker call)
    (made : (session.calls[call]?).map Call.request = some request) :
    session.Pends asker call request := by
  -- Whatever the task waits for is the request that was made there.
  obtain ⟨asked, pending⟩ := sound.pends asking
  rw [pending.made] at made
  cases made
  exact pending

/-- Every move leaves what is on its way consistent. -/
theorem Consistent.move {session next : LookupSession} {taken : Option Acceptance}
    (sound : session.Consistent) (move : session.Move taken next) : next.Consistent := by
  -- Nothing is added but by asking, and nothing current is left once a page is settled.
  cases move with
  | quiet progress calls asks =>
    exact sound.carry asks (fun _ _ _ asked pending => ⟨asked, calls ▸ pending.made⟩)
      (congrArg Progress.generation progress)
      fun _ _ _ _ _ _ => ⟨congrArg Progress.loading progress, Lookup.request_congr progress⟩
  | asked asker free progress calls asks => exact sound.ask free progress calls asks
  | inquired asker request progress calls asks => exact sound.inquire progress calls asks
  | restarted term progress calls asks => exact sound.restart progress calls asks
  | @settled _ _ _ request asking made progress calls asks =>
    refine sound.finish (sound.pends_of_made asking made) ?_ (fun old => ?_) calls asks
    · rw [Progress.letGo_eq] at progress
      exact congrArg Progress.generation progress
    · rw [progress]
      exact Progress.letGo_of_old old
  | accepted asking made current read progress answered calls asks =>
    refine sound.finish (sound.pends_of_made asking made) ?_ (fun old => ?_) calls asks
    · exact congrArg Progress.generation progress
    · exact absurd current (old _ rfl)

/-- What is on its way stays consistent along a run. -/
theorem Consistent.run (events : List LookupEvent) :
    ∀ {session : LookupSession}, session.Consistent → (session.run events).Consistent := by
  -- One move keeps it, so the run does.
  induction events with
  | nil => exact fun sound => sound
  | cons event events ih =>
    intro session sound
    exact ih (sound.move (session.step_move event))

/-- A task that waits for a reply is found. -/
theorem Asks.found {session : LookupSession} {task call : Nat} (asks : session.Asks task call) :
    ∃ holder, session.tasks.findIdx? (awaits call) = some holder := by
  -- Some task waits for the call, so the search for one ends.
  obtain ⟨kind, waits⟩ := asks
  rw [← Option.isSome_iff_exists, List.findIdx?_isSome, List.any_eq_true]
  exact ⟨_, List.mem_of_getElem? waits, by simp [awaits]⟩

/-- A request that is on its way is waited for by one task, which is the one found. -/
theorem Consistent.findIdx?_awaits {session : LookupSession} (sound : session.Consistent)
    {task call : Nat} (asks : session.Asks task call) :
    session.tasks.findIdx? (awaits call) = some task := by
  -- The first that waits for the call is the only one.
  obtain ⟨holder, found⟩ := asks.found
  rw [found, sound.alone (LookupSession.findIdx?_awaits found) asks]

end LookupSession

end Flowchart
