import Flowchart.Proofs.Relation.Moves

/-! What the events of an option list leave alone. A part of the list that is apart from loading
stays as it is whatever is loaded. It changes at most where a search starts over, a label is shown
or an option is chosen. -/

namespace Flowchart

/-- A part of an option list is apart from loading: it is the same whether the list loads, takes in
a page, is opened or is closed. -/
structure Lookup.Apart {α : Type} (part : Lookup → α) : Prop where
  loading : ∀ (lookup : Lookup) (loading : Bool), part { lookup with loading } = part lookup
  accept : ∀ (lookup : Lookup) (page : Page), part (lookup.accept page) = part lookup
  markOpened : ∀ lookup : Lookup, part lookup.markOpened = part lookup
  flip : ∀ lookup : Lookup, part lookup.flip = part lookup

section Apart

variable {α : Type} {part : Lookup → α} (apart : Lookup.Apart part)

include apart

namespace Lookup.Apart

/-- Beginning to load leaves the part alone. -/
theorem beginLoad {lookup next : Lookup} {byScroll : Bool} {request : PageRequest}
    (begun : lookup.beginLoad byScroll = some (request, next)) : part next = part lookup := by
  -- A load that begins sets the flag and nothing else.
  obtain ⟨-, -, rfl⟩ := beginLoad_eq_some begun
  exact apart.loading lookup true

/-- Letting go of a request leaves the part alone. -/
theorem release (lookup : Lookup) (request : PageRequest) :
    part (lookup.release request) = part lookup := by
  -- A release clears the flag, or does nothing.
  unfold Lookup.release
  split
  · exact apart.loading lookup false
  · rfl

/-- The end of a request for a page leaves the part alone. -/
theorem finishLoad (lookup : Lookup) (request : PageRequest) (reply : Reply) :
    part (lookup.finishLoad request reply).1 = part lookup := by
  rw [← apart.release lookup request]
  -- However the request ends, it is let go of, and a page is taken in at most.
  unfold Lookup.finishLoad
  dsimp only
  split
  · rfl
  · rfl
  · split
    · split
      · exact apart.accept _ _
      · rfl
    · rfl

end Lookup.Apart

namespace LookupSession

/-- Loading leaves the part alone. -/
theorem load_apart (session : LookupSession) (byScroll : Bool) :
    part (session.load byScroll).lookup = part session.lookup := by
  unfold load
  -- A refused load adds a task only. One that starts changes what beginning changes.
  split
  · rfl
  · rename_i begun
    exact apart.beginLoad begun

/-- Scrolling leaves the part alone. -/
theorem scroll_apart (session : LookupSession) (height top shown : Json) :
    part (session.scroll height top shown).lookup = part session.lookup := by
  unfold scroll
  -- Only a scroll that is far enough down loads.
  split
  · exact load_apart apart session true
  · rfl
  · rfl

/-- Opening and closing the list leaves the part alone. -/
theorem toggle_apart (session : LookupSession) :
    part session.toggle.lookup = part session.lookup := by
  -- The list is marked as opened first, and then it is flipped or begins to load.
  have opened := apart.markOpened session.lookup
  unfold toggle
  dsimp only
  split
  · exact (apart.flip _).trans opened
  · rename_i begun
    split at begun
    · cases begun
    · exact (apart.beginLoad begun).trans opened

/-- Letting go of what a task waits for leaves the part alone. -/
theorem releaseTask_apart (calls : List Call) (lookup : Lookup) (task : LookupTask) :
    part (releaseTask calls lookup task) = part lookup := by
  unfold releaseTask
  -- A task lets something go only if it waits for a page that was asked.
  split
  · split
    · exact apart.release lookup _
    · rfl
  · rfl

/-- Cancelling a task leaves the part alone. -/
theorem cancel_apart (session : LookupSession) (task : Nat) :
    part (session.cancel task).lookup = part session.lookup := by
  -- The task that is over may let its page go.
  unfold cancel
  split
  · rfl
  · exact releaseTask_apart apart ..

/-- A search leaves the part alone if starting over does. -/
theorem search_apart (session : LookupSession) (term : Json)
    (restarts : part (session.lookup.restart term) = part session.lookup) :
    part (session.search term).lookup = part session.lookup := by
  -- Behind the restart only tasks change.
  rw [← restarts]
  unfold search
  dsimp only
  split
  · exact cancel_apart apart { session with lookup := session.lookup.restart term } _
  · rfl

/-- The end of a pause leaves the part alone. -/
theorem wake_apart (session : LookupSession) (task : Nat) :
    part (session.wake task).lookup = part session.lookup := by
  unfold wake
  -- A woken search asks for its page or ends, and any other task only ends.
  split
  · unfold beginSearch
    split
    · split
      · rfl
      · rename_i begun
        exact apart.beginLoad begun
    · rfl
  · rfl
  · rfl

/-- The reply to a request for a page leaves the part alone. -/
theorem settle_page_apart (lookup : Lookup) (kind : TaskKind) (request : PageRequest)
    (reply : Reply) : part (settle lookup kind (.page request) reply).1 = part lookup := by
  rw [← apart.finishLoad lookup request reply]
  unfold settle
  dsimp only
  split
  · rename_i ended
    rw [ended]
  · rename_i ended
    rw [ended]
    -- A toggle flips the list as well.
    split
    · exact apart.flip _
    · rfl

/-- A reply leaves the part alone if labels do. -/
theorem reply_apart
    (label : ∀ (lookup : Lookup) (label : Json), part { lookup with label } = part lookup)
    (session : LookupSession) (call : Nat) (reply : Reply) :
    part (session.reply call reply).lookup = part session.lookup := by
  -- A reply that no task waits for is lost.
  cases found : session.tasks.findIdx? (awaits call) with
  | none => rw [(reply_of_lost reply (.inl found)).2]
  | some task =>
    cases made : session.calls[call]? with
    | none => rw [(reply_of_lost reply (.inr made)).2]
    | some asked =>
      obtain ⟨kind, waits⟩ := findIdx?_awaits found
      rw [reply_lookup found waits made]
      cases asked.request with
      | page request => exact settle_page_apart apart ..
      | label request =>
        -- Whatever comes back, the label is all that it may change.
        obtain ⟨shown, same⟩ := session.lookup.exists_finishLabel request reply
        rw [settle_label_lookup, same]
        exact label ..

/-- A part that neither labels nor choices touch is left alone by every event but a search. -/
theorem step_apart
    (label : ∀ (lookup : Lookup) (label : Json), part { lookup with label } = part lookup)
    (select : ∀ (lookup : Lookup) (item : Json.Members), part (lookup.select item).1 = part lookup)
    (session : LookupSession) {event : LookupEvent} (other : ∀ term, event ≠ .search term) :
    part (session.step event).lookup = part session.lookup := by
  -- Case by case on the event. What the caller knows of labels and choices is used where they
  -- change.
  cases event with
  | load byScroll => exact load_apart apart session byScroll
  | scroll height top shown => exact scroll_apart apart session height top shown
  | toggle => exact toggle_apart apart session
  | search term => exact absurd rfl (other term)
  | label value =>
    rw [step, LookupSession.label]
    split
    · rfl
    · rename_i begun
      unfold Lookup.beginLabel at begun
      split at begun
      · cases begun
      · cases begun
        exact label ..
  | select item => exact select session.lookup item
  | wake task => exact wake_apart apart session task
  | reply call reply => exact reply_apart apart label session call reply
  | cancel task => exact cancel_apart apart session task

end LookupSession

end Apart

namespace LookupSession

/-- Only a search opens a generation. -/
theorem step_generation (session : LookupSession) {event : LookupEvent}
    (other : ∀ term, event ≠ .search term) :
    (session.step event).lookup.generation = session.lookup.generation := by
  -- The generation is a part like any other, but for a search.
  have apart : Lookup.Apart Lookup.generation :=
    ⟨fun _ _ => rfl, fun _ _ => rfl, fun _ => rfl, fun _ => rfl⟩
  exact step_apart apart (fun _ _ => rfl) (fun _ _ => rfl) session other

/-- Nothing but a search starts over. -/
theorem step_progress_ne_restart (session : LookupSession) {event : LookupEvent}
    (other : ∀ term, event ≠ .search term) (term : Json) :
    (session.step event).lookup.progress ≠ session.lookup.progress.restart term := by
  intro same
  -- A search that starts over opens a generation.
  have opened : session.lookup.generation = session.lookup.generation + 1 :=
    (session.step_generation other).symm.trans (congrArg Progress.generation same)
  omega

/-- A list keeps its server along a run, or keeps going without one. -/
theorem run_hasServer (events : List LookupEvent) :
    ∀ session : LookupSession,
      (session.run events).lookup.hasServer = session.lookup.hasServer := by
  have apart : Lookup.Apart Lookup.hasServer :=
    ⟨fun _ _ => rfl, fun _ _ => rfl, fun _ => rfl, fun _ => rfl⟩
  induction events with
  | nil => exact fun _ => rfl
  | cons event events ih =>
    intro session
    refine (ih _).trans ?_
    -- Not even a search changes it.
    by_cases search : ∃ term, event = .search term
    · obtain ⟨term, rfl⟩ := search
      exact search_apart apart session term rfl
    · exact step_apart apart (fun _ _ => rfl) (fun _ _ => rfl) session
        fun term same => search ⟨term, same⟩

end LookupSession

end Flowchart
