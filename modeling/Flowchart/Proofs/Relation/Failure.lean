import Flowchart.Proofs.Relation.Live

/-! Loads that fail. A load that waits for a page may end without one in several ways, and none of
them changes anything of what was loaded. -/

namespace Flowchart

/-- Two lists have loaded the same: they show the same options and stand at the same page of the
same search. -/
structure Lookup.LoadedAlike (first second : Lookup) : Prop where
  options : second.options = first.options
  page : second.page = first.page
  hasMore : second.hasMore = first.hasMore
  term : second.term = first.term
  generation : second.generation = first.generation

/-- Lists whose progress differs in the loading flag at most have loaded the same. -/
theorem Lookup.LoadedAlike.of_progress {first second : Lookup} {progress : Progress}
    {loading other : Bool} (one : first.progress = { progress with loading })
    (two : second.progress = { progress with loading := other }) : first.LoadedAlike second where
  -- Each field but the flag is that of the one progress both have.
  options := (congrArg Progress.options two).trans (congrArg Progress.options one).symm
  page := (congrArg Progress.page two).trans (congrArg Progress.page one).symm
  hasMore := (congrArg Progress.hasMore two).trans (congrArg Progress.hasMore one).symm
  term := (congrArg Progress.term two).trans (congrArg Progress.term one).symm
  generation := (congrArg Progress.generation two).trans (congrArg Progress.generation one).symm

namespace LookupSession

/-- The ways in which a load that waits for a page comes to its end without one. -/
inductive Failure (session : LookupSession) (task call : Nat) (request : PageRequest) :
    LookupEvent → Prop where
  /-- The server refused, was out of reach or took too long. -/
  | unavailable : Failure session task call request (.reply call .unavailable)
  /-- Something else went wrong on the way. -/
  | broken (message : String) : Failure session task call request (.reply call (.broken message))
  /-- The answer is no object, or its items cannot be listed. -/
  | unreadable {response : Json} {fault : AnswerFault}
    (unread : Page.ofAnswer response = .error fault) :
    Failure session task call request (.reply call (.answer response))
  /-- The answer comes too late: a search has started over in the meantime. -/
  | late (response : Json) (old : request.generation ≠ session.lookup.generation) :
    Failure session task call request (.reply call (.answer response))
  /-- The load is cancelled. -/
  | cancelled : Failure session task call request (.cancel task)

/-- With an event a task no longer waits for the answer to its request, and no page was taken in. -/
structure EndsWithout (session : LookupSession) (task call : Nat) (event : LookupEvent) : Prop where
  ended : ¬ (session.step event).Asks task call
  nothing : session.acceptance? event = none

/-- A task of a kind waits for the answer to a request. -/
def Waits (session : LookupSession) (task : Nat) (kind : TaskKind) (call : Nat) : Prop :=
  session.tasks[task]? = some ⟨kind, .asking call⟩

section Ending

variable {session : LookupSession} {task call : Nat}

section Waiting

variable {kind : TaskKind} (waits : session.Waits task kind call)

include waits

/-- A task goes on to wait when another one is added behind it. -/
theorem Waits.behind {next : LookupSession} {added : LookupTask}
    (tasks : next.tasks = session.tasks ++ [added]) : next.Waits task kind call := by
  rw [Waits, tasks, getElem?_append_kept added waits]

/-- A task goes on to wait when another one changes. -/
theorem Waits.beside {next : LookupSession} {other : Nat} {change : LookupTask → LookupTask}
    (tasks : next.tasks = session.tasks.modify other change) (distinct : other ≠ task) :
    next.Waits task kind call := by
  rw [Waits, tasks, List.getElem?_modify_ne _ _ distinct, waits]

/-- A task goes on to wait while the list loads. -/
theorem Waits.load (byScroll : Bool) : (session.load byScroll).Waits task kind call := by
  -- The load is another task, behind this one.
  unfold LookupSession.load
  split
  · exact waits.behind rfl
  · exact waits.behind rfl

/-- A task goes on to wait while a label is asked for. -/
theorem Waits.label (value : Json) : (session.label value).Waits task kind call := by
  -- The fetch is another task, behind this one.
  unfold LookupSession.label
  split
  · exact waits.behind rfl
  · exact waits.behind rfl

/-- A task that waits for an answer does not rest, so the end of a pause is nothing to it. -/
theorem Waits.wake (rested : Nat) : (session.wake rested).Waits task kind call := by
  -- Only a task that rests is woken, and this one waits for a call.
  have distinct {generation : Nat}
      (rests : (session.tasks[rested]?).map LookupTask.state = some (.resting generation)) :
      rested ≠ task := by
    rintro rfl
    rw [waits] at rests
    cases rests
  unfold LookupSession.wake
  split
  · rename_i rests _
    unfold beginSearch
    split
    · split
      · exact waits.beside rfl (distinct rests)
      · exact waits.beside rfl (distinct rests)
    · exact waits.beside rfl (distinct rests)
  · rename_i rests _
    exact waits.beside rfl (distinct rests)
  · exact waits

/-- A task goes on to wait when there is a reply to another request. -/
theorem Waits.reply {other : Nat} (distinct : other ≠ call) (reply : Reply) :
    (session.reply other reply).Waits task kind call := by
  cases found : session.tasks.findIdx? (awaits other) with
  | none => rwa [(reply_of_lost reply (.inl found)).2]
  | some holder =>
    cases made : session.calls[other]? with
    | none => rwa [(reply_of_lost reply (.inr made)).2]
    | some asked =>
      obtain ⟨held, asks⟩ := findIdx?_awaits found
      rw [reply_eq found asks made]
      -- The task that has the reply waited for that one and for no other.
      refine waits.beside rfl ?_
      rintro rfl
      have same := waits.symm.trans asks
      cases same
      exact distinct rfl

/-- A search that starts over cancels a search at most, so that any other task goes on to wait. -/
theorem Waits.search (other : kind ≠ .search) (term : Json) :
    (session.search term).Waits task kind call := by
  unfold LookupSession.search
  dsimp only
  -- The new search cancels the last search, which this task is not, and adds a task behind all.
  split
  · rename_i last place
    obtain ⟨⟨old, there, search⟩, -⟩ := lastSearch?_eq_some place
    have distinct : last ≠ task := by
      rintro rfl
      have same := there.symm.trans waits
      cases same
      exact other search
    rw [cancel, there]
    let cancelled : LookupSession :=
      { session with tasks := session.tasks.modify last LookupTask.cancel }
    have still : cancelled.Waits task kind call := waits.beside rfl distinct
    exact still.behind rfl
  · exact waits.behind rfl

/-- A task goes on to wait for its answer unless there is a reply, or it is cancelled, or it is a
search itself and another one starts over. -/
theorem Waits.step (event : LookupEvent) :
    (session.step event).Waits task kind call ∨ (∃ reply, event = .reply call reply) ∨
      event = .cancel task ∨ kind = .search ∧ ∃ term, event = .search term := by
  -- Most events add tasks behind this one or change others, so it goes on to wait.
  cases event with
  | load byScroll => exact .inl (waits.load byScroll)
  | scroll height top shown =>
    left
    rw [LookupSession.step, scroll]
    split
    · exact waits.load true
    · exact waits.behind rfl
    · exact waits.behind rfl
  | toggle =>
    left
    rw [LookupSession.step, toggle]
    dsimp only
    split
    · exact waits.behind rfl
    · exact waits.behind rfl
  | label value => exact .inl (waits.label value)
  | select item => exact .inl waits
  | wake rested => exact .inl (waits.wake rested)
  -- A newer search may cancel this task only if it is a search itself.
  | search term =>
    by_cases search : kind = .search
    · exact .inr (.inr (.inr ⟨search, term, rfl⟩))
    · exact .inl (waits.search search term)
  -- A reply to another call and the end of another task leave it waiting.
  | reply other reply =>
    by_cases same : other = call
    · exact .inr (.inl ⟨reply, by rw [same]⟩)
    · exact .inl (waits.reply same reply)
  | cancel other =>
    by_cases same : other = task
    · exact .inr (.inr (.inl (by rw [same])))
    · left
      rw [LookupSession.step, cancel]
      split
      · exact waits
      · exact waits.beside rfl same

end Waiting

/-- A task goes on to wait for its answer unless there is a reply, or it is cancelled, or a search
starts over. -/
theorem Asks.step (asks : session.Asks task call) (event : LookupEvent) :
    (session.step event).Asks task call ∨ (∃ reply, event = .reply call reply) ∨
      event = .cancel task ∨ ∃ term, event = .search term := by
  -- Whatever the kind of the task, it is one of the four cases.
  obtain ⟨kind, waits⟩ := asks
  obtain still | reply | cancelled | ⟨-, search⟩ := Waits.step waits event
  · exact .inl ⟨kind, still⟩
  · exact .inr (.inl reply)
  · exact .inr (.inr (.inl cancelled))
  · exact .inr (.inr (.inr search))

variable {request : PageRequest} (sound : session.Consistent)
  (pending : session.Pends task call (.page request))

include sound pending

/-- A reply that the list refuses is the end of the load, and lets go of the request at most. -/
theorem Pends.refused {reply : Reply}
    (refused : (session.lookup.finishLoad request reply).2 ≠ .ok true) :
    session.EndsWithout task call (.reply call reply) ∧
      (session.reply call reply).lookup.progress =
        session.lookup.progress.letGo (.page request) := by
  -- The task that has the reply is the one that waits for the call, and no other.
  have found := sound.findIdx?_awaits pending.asks
  obtain ⟨kind, waits⟩ := pending.asks
  refine ⟨⟨fun asks => ?_, acceptance?_of_refused pending.made refused⟩, ?_⟩
  · -- The task that has the reply is over.
    exact (asks_reply found waits pending.made reply asks).2 rfl
  · rw [reply_lookup found waits pending.made, settle_page, Lookup.finishLoad_ne_true refused]

omit sound in
/-- Cancelling the task is the end of the load, and lets go of the request at most. -/
theorem Pends.cancelled :
    session.EndsWithout task call (.cancel task) ∧
      (session.cancel task).lookup.progress = session.lookup.progress.letGo (.page request) := by
  -- The task is over at once, and what it lets go is decided by the page it asked for.
  obtain ⟨kind, waits⟩ := pending.asks
  refine ⟨⟨fun asks => ?_, rfl⟩, ?_⟩
  · rw [LookupSession.step, cancel, waits] at asks
    exact (asks_cancelTask asks).2 rfl
  · rw [cancel, waits]
    dsimp only [releaseTask]
    rw [pending.made]
    exact Lookup.release_progress session.lookup request

/-- Every failure is the end of the load, and lets go of the request at most. -/
theorem Failure.ends {event : LookupEvent} (failure : session.Failure task call request event) :
    session.EndsWithout task call event ∧
      (session.step event).lookup.progress = session.lookup.progress.letGo (.page request) := by
  cases failure with
  | unavailable => exact pending.refused sound nofun
  | broken message => exact pending.refused sound nofun
  | unreadable unread =>
    refine pending.refused sound fun taken => ?_
    -- Only an answer that holds a page is taken in.
    obtain ⟨_, page, same, read, -⟩ := Lookup.finishLoad_eq_true taken
    cases same
    rw [unread] at read
    cases read
  | late response old =>
    refine pending.refused sound fun taken => ?_
    obtain ⟨_, _, -, -, current, -⟩ := Lookup.finishLoad_eq_true taken
    exact old current
  | cancelled => exact pending.cancelled

/-- A load that ends without a page has failed, unless a search has cut it off. -/
theorem failure_of_endsWithout {event : LookupEvent} (ends : session.EndsWithout task call event)
    (other : ∀ term, event ≠ .search term) : session.Failure task call request event := by
  -- The request ends in a reply or a cancellation, for a search is excluded.
  obtain kept | ⟨reply, rfl⟩ | rfl | ⟨term, rfl⟩ := pending.asks.step event
  · exact absurd kept ends.ended
  · -- A reply is a failure unless it brings a page that is taken in.
    cases reply with
    | unavailable => exact .unavailable
    | broken message => exact .broken message
    | answer response =>
      cases read : Page.ofAnswer response with
      | error fault => exact .unreadable read
      | ok page =>
        -- A page of the search at hand would have been taken in.
        refine .late response fun current => ?_
        have held : session.isHeld call = true := by
          rw [isHeld, ← List.findIdx?_isSome, sound.findIdx?_awaits pending.asks]
          rfl
        have taken : (session.lookup.finishLoad request (.answer response)).2 = .ok true := by
          simp only [Lookup.finishLoad, Lookup.isCurrent, current, beq_self_eq_true, if_true, read]
        have nothing := ends.nothing
        simp [acceptance?, held, pending.made, taken, read] at nothing
  · exact .cancelled
  · exact absurd rfl (other term)

end Ending

section Failing

variable {session : LookupSession} {task call : Nat} {request : PageRequest} {event : LookupEvent}
  (sound : session.Consistent) (pending : session.Pends task call (.page request))
  (failure : session.Failure task call request event)

include failure

/-- No failure is a search. -/
theorem Failure.ne_search (term : Json) : event ≠ .search term := by
  cases failure <;> nofun

include sound pending

/-- A failure changes nothing of what was loaded. -/
theorem Failure.loadedAlike : session.lookup.LoadedAlike (session.step event).lookup := by
  -- Letting a request go changes the flag alone.
  have progress := (failure.ends sound pending).2
  rw [Progress.letGo_eq] at progress
  exact .of_progress rfl progress

/-- A failure frees the list unless a search has started over since. -/
theorem Failure.loading :
    (session.step event).lookup.loading =
      if request.generation = session.lookup.generation then false else session.lookup.loading := by
  -- Letting go of a request clears the flag exactly if the request is of the search at hand.
  have flag := congrArg Progress.loading (failure.ends sound pending).2
  refine flag.trans ?_
  rw [Progress.letGo]
  exact apply_ite Progress.loading _ _ _

end Failing

end LookupSession

end Flowchart
