import Flowchart.Proofs.Relation.Frame
import Flowchart.Proofs.Relation.Requests

/-! Which events change the label that an option list shows. Choosing an option does, and so do
asking for a label and the reply to that, whatever was chosen meanwhile. -/

namespace Flowchart

/-- What a reply to a request for a label says is to be shown, if it says so. A value without a label
is shown itself; one that cannot be written keeps back even a label that is there. -/
def Reply.label? (request : LabelRequest) (reply : Reply) : Option Json :=
  match reply, request.value.display with
  | .unavailable, .ok shown => some (.str shown)
  | .answer (.obj members), .ok shown =>
    some ((Json.Members.get? members "label").getD (.str shown))
  | _, _ => none

namespace Lookup

/-- The label is apart from loading. -/
theorem label_apart : Apart Lookup.label :=
  ⟨fun _ _ => rfl, fun _ _ => rfl, fun _ => rfl, fun _ => rfl⟩

/-- The end of a request for a label shows what the reply says. -/
theorem finishLabel_label (lookup : Lookup) (request : LabelRequest) (reply : Reply) :
    (lookup.finishLabel request reply).1.label = (reply.label? request).getD lookup.label := by
  -- The reply and the value decide together, so both are taken apart.
  unfold finishLabel Reply.label?
  cases request.value.display with
  | error reason =>
    cases reply with
    | answer response => cases response <;> rfl
    | unavailable => rfl
    | broken message => rfl
  | ok shown =>
    cases reply with
    | answer response => cases response <;> rfl
    | unavailable => rfl
    | broken message => rfl

/-- A list that shows a label does not ask for one. -/
theorem beginLabel_of_truthy {lookup : Lookup} (shown : lookup.label.isTruthy = true)
    (value : Json) : lookup.beginLabel value = none := by
  simp [beginLabel, shown]

end Lookup

namespace LookupSession

/-- The label of a value was asked for and is on its way. -/
def Inquires (session : LookupSession) (call : Nat) : Prop :=
  ∃ task request, session.Pends task call (.label request)

/-- An event may change the label that is shown. -/
inductive Renames (session : LookupSession) : LookupEvent → Prop where
  /-- An option is chosen. -/
  | select (item : Json.Members) : Renames session (.select item)
  /-- A label has to be asked for, and something else is shown until it is there. -/
  | label (value : Json) (begun : (session.lookup.beginLabel value).isSome = true) :
    Renames session (.label value)
  /-- A label was asked for, and there is a reply. -/
  | reply (call : Nat) (reply : Reply) (inquires : session.Inquires call) :
    Renames session (.reply call reply)

/-- Showing a label leaves it as it is if it need not be asked for. -/
theorem label_label {session : LookupSession} {value : Json}
    (known : session.lookup.beginLabel value = none) :
    (session.label value).lookup.label = session.lookup.label := by
  -- A fetch that does not begin is a task alone.
  rw [label, known]
  rfl

/-- A reply does not touch the label unless the label was asked for. -/
theorem reply_label {session : LookupSession} (sound : session.Consistent) {call : Nat}
    (reply : Reply) (other : ¬ session.Inquires call) :
    (session.reply call reply).lookup.label = session.lookup.label := by
  -- A reply nobody waits for is lost. Otherwise the request that was made decides.
  cases found : session.tasks.findIdx? (awaits call) with
  | none => rw [(reply_of_lost reply (.inl found)).2]
  | some task =>
    have asks := findIdx?_awaits found
    obtain ⟨request, pending⟩ := sound.pends asks
    obtain ⟨kind, waits⟩ := asks
    rw [reply_lookup found waits pending.made]
    cases request with
    | page request => exact settle_page_apart Lookup.label_apart ..
    | label request => exact absurd ⟨task, request, pending⟩ other

/-- The label stays as it is at every event but those that may change it. -/
theorem step_label {session : LookupSession} (sound : session.Consistent) {event : LookupEvent}
    (kept : ¬ session.Renames event) :
    (session.step event).lookup.label = session.lookup.label := by
  -- The frame lemmas cover all events but those that may rename.
  cases event with
  | load byScroll => exact load_apart Lookup.label_apart session byScroll
  | scroll height top shown => exact scroll_apart Lookup.label_apart session height top shown
  | toggle => exact toggle_apart Lookup.label_apart session
  | search term => exact search_apart Lookup.label_apart session term rfl
  | label value =>
    refine label_label ?_
    cases begun : session.lookup.beginLabel value with
    | none => rfl
    | some asked => exact absurd (.label value (by rw [begun]; rfl)) kept
  | select item => exact absurd (.select item) kept
  | wake task => exact wake_apart Lookup.label_apart session task
  | reply call reply =>
    exact reply_label sound reply fun inquires => kept (.reply call reply inquires)
  | cancel task => exact cancel_apart Lookup.label_apart session task

/-- A label that comes is shown, whatever was chosen since it was asked for. -/
theorem Pends.label_shown {session : LookupSession} {task call : Nat} {request : LabelRequest}
    (pending : session.Pends task call (.label request)) (reply : Reply) :
    (session.reply call reply).lookup.label =
      (reply.label? request).getD session.lookup.label := by
  -- The task is found by its call, and settling it changes the label.
  obtain ⟨holder, found⟩ := pending.asks.found
  obtain ⟨kind, waits⟩ := findIdx?_awaits found
  rw [reply_lookup found waits pending.made, settle_label_lookup, Lookup.finishLabel_label]

/-- A label that is asked for and answered at once. -/
theorem label_reply {session : LookupSession} (sound : session.Consistent) {value : Json}
    {request : LabelRequest} {next : Lookup}
    (begun : session.lookup.beginLabel value = some (request, next)) (reply : Reply) :
    let asked := session.label value
    let answered := asked.reply session.calls.length reply
    answered.lookup = (next.finishLabel request reply).1 ∧
      (answered.tasks[session.tasks.length]?).map LookupTask.state =
        some (settle next .label (.label request) reply).2 := by
  intro asked answered
  have asked_eq : asked =
      { lookup := next
        tasks := session.tasks ++ [⟨.label, .asking session.calls.length⟩]
        calls := session.calls ++ [⟨.label request, none⟩] } := by
    simp only [asked, LookupSession.label, begun]
    rfl
  have waits : asked.tasks[session.tasks.length]? = some ⟨.label, .asking session.calls.length⟩ := by
    rw [asked_eq, List.getElem?_concat_length]
  have made : asked.calls[session.calls.length]? = some ⟨.label request, none⟩ := by
    rw [asked_eq, List.getElem?_concat_length]
  -- Nobody else waits for the request.
  have found : asked.tasks.findIdx? (awaits session.calls.length) = some session.tasks.length :=
    (sound.move (session.label_move value)).findIdx?_awaits ⟨_, waits⟩
  have lookup_eq : asked.lookup = next := by rw [asked_eq]
  -- The lookup and the task are both what settling the reply makes of them.
  refine ⟨?_, ?_⟩
  · rw [show answered.lookup = _ from reply_lookup found waits made reply, lookup_eq,
      settle_label_lookup]
  · rw [show answered = _ from reply_eq found waits made reply, lookup_eq]
    simp [setTask, waits]

/-- A request stays made. -/
theorem Move.made {session next : LookupSession} {taken : Option Acceptance}
    (move : session.Move taken next) {call : Nat} {request : Request}
    (made : session.Made call request) : next.Made call request := by
  -- Requests are added behind the others, and an end is noted with the request that it ends.
  have kept {ended : Nat} (calls : session.KeepsCalls next ended) : next.Made call request := by
    by_cases same : call = ended
    · subst same
      exact calls.request.trans made
    · rw [Made, calls.others call same]
      exact made
  have added {asked : Request} (calls : next.calls = session.calls ++ [⟨asked, none⟩]) :
      next.Made call request := by
    obtain ⟨held, found, rfl⟩ := Option.map_eq_some_iff.mp made
    rw [Made, calls, getElem?_append_kept _ found, Option.map_some]
  cases move with
  | quiet progress calls asks => rwa [Made, calls]
  | asked asker free progress calls asks => exact added calls
  | inquired asker request progress calls asks => exact added calls
  | restarted term progress calls asks => rwa [Made, calls]
  | settled asking made progress calls asks => exact kept calls
  | accepted asking made current read progress answered calls asks => exact kept calls

/-- A request stays made along a run. -/
theorem Made.run {call : Nat} {request : Request} (events : List LookupEvent) :
    ∀ {session : LookupSession}, session.Made call request → (session.run events).Made call request := by
  -- A call that was made is never taken back.
  induction events with
  | nil => exact fun made => made
  | cons event events ih =>
    intro session made
    exact ih ((session.step_move event).made made)

/-- Requests are never taken back. -/
theorem Move.calls_le {session next : LookupSession} {taken : Option Acceptance}
    (move : session.Move taken next) : session.calls.length ≤ next.calls.length := by
  refine Nat.le_of_not_lt fun fewer => ?_
  -- The request behind the last one of the next session would have been made before.
  have last : session.Made next.calls.length session.calls[next.calls.length].request := by
    rw [Made, List.getElem?_eq_getElem fewer, Option.map_some]
  have made := move.made last
  rw [Made, List.getElem?_eq_none (Nat.le_refl _)] at made
  cases made

/-- A label that is on its way after a move was so before or is asked for by it. -/
theorem Move.inquires {session next : LookupSession} {taken : Option Acceptance}
    (sound : session.Consistent) (move : session.Move taken next) {call : Nat}
    (inquires : next.Inquires call) :
    session.Inquires call ∨
      call = session.calls.length ∧ ∃ request, next.Made call (.label request) := by
  obtain ⟨task, request, pending⟩ := inquires
  -- A task that still waits waits for what it waited for before, and that was not ended.
  have still {asker ended : Nat} (asking : session.Asks asker ended)
      (calls : session.KeepsCalls next ended)
      (asks : ∀ task other, next.Asks task other → session.Asks task other ∧ task ≠ asker) :
      session.Inquires call := by
    obtain ⟨before, distinct⟩ := asks _ _ pending.asks
    have other : call ≠ ended := by
      rintro rfl
      exact distinct (sound.alone before asking)
    exact ⟨task, request, before, (calls.others call other).symm.trans pending.made⟩
  -- Only a move that asks for a label adds an inquiry.
  cases move with
  | quiet progress calls asks =>
    exact .inl ⟨task, request, asks _ _ pending.asks, calls ▸ pending.made⟩
  | asked asker free progress calls asks =>
    obtain before | ⟨-, -, same⟩ := sound.pends_or asks calls pending
    · exact .inl ⟨task, request, before⟩
    · cases same
  | inquired asker asked progress calls asks =>
    obtain before | ⟨-, last, -⟩ := sound.pends_or asks calls pending
    · exact .inl ⟨task, request, before⟩
    · exact .inr ⟨last, request, by rw [Made, pending.made, Option.map_some]⟩
  | restarted term progress calls asks =>
    exact .inl ⟨task, request, asks _ _ pending.asks, calls ▸ pending.made⟩
  | settled asking made progress calls asks => exact .inl (still asking calls asks)
  | accepted asking made current read progress answered calls asks =>
    exact .inl (still asking calls asks)

/-- A label is asked for where it is to be shown and none is known. -/
theorem asked?_eq_label {session : LookupSession} {event : LookupEvent} {request : LabelRequest}
    (asked : session.asked? event = some (.label request)) :
    ∃ value next, event = .label value ∧ session.lookup.beginLabel value = some (request, next) := by
  -- Only the label event asks for a label, and its request is the one that begins there.
  unfold asked? at asked
  split at asked
  · rename_i value
    obtain ⟨⟨begun, next⟩, begins, same⟩ := Option.map_eq_some_iff.mp asked
    cases same
    exact ⟨value, next, rfl, begins⟩
  · -- Loading asks for pages only.
    obtain ⟨_, -, asked⟩ := Option.bind_eq_some_iff.mp asked
    obtain ⟨_, -, other⟩ := Option.map_eq_some_iff.mp asked
    cases other

/-- Whoever asks for a label may change the one that is shown. -/
theorem renames_of_asked? {session : LookupSession} {event : LookupEvent} {request : LabelRequest}
    (asked : session.asked? event = some (.label request)) : session.Renames event := by
  -- The event that asks is a fetch that begins.
  obtain ⟨value, next, rfl, begun⟩ := asked?_eq_label asked
  exact .label value (by rw [begun]; rfl)

/-- Where the label cannot change, no label is newly on its way. -/
theorem inquires_of_step {session : LookupSession} (sound : session.Consistent)
    {event : LookupEvent} (kept : ¬ session.Renames event) {call : Nat}
    (inquires : (session.step event).Inquires call) : session.Inquires call := by
  -- An inquiry that is new is a call that was just made, and making it renames.
  obtain before | ⟨last, request, made⟩ := (session.step_move event).inquires sound inquires
  · exact before
  · obtain earlier | ⟨-, asked⟩ := made_of_step made
    · rw [Made, last, List.getElem?_eq_none (Nat.le_refl _)] at earlier
      cases earlier
    · exact absurd (renames_of_asked? asked) kept

/-- A label that has to be asked for is asked for. -/
theorem made_of_beginLabel {session : LookupSession} {value : Json}
    (begun : (session.lookup.beginLabel value).isSome = true) :
    ∃ request, (session.label value).Made session.calls.length (.label request) := by
  obtain ⟨⟨request, next⟩, begins⟩ := Option.isSome_iff_exists.mp begun
  -- The call goes to the end of the calls.
  refine ⟨request, ?_⟩
  rw [label, begins]
  show Option.map Call.request ((session.calls ++ [⟨.label request, none⟩])[session.calls.length]?) = _
  rw [List.getElem?_concat_length, Option.map_some]

/-- A label stays along a run in which no option is chosen, no label that is on its way comes and,
unless there is a label to be shown, none is asked for. -/
theorem run_label (events : List LookupEvent) :
    ∀ {session : LookupSession}, session.Consistent → (∀ item, .select item ∉ events) →
      (∀ call reply, session.Inquires call → .reply call reply ∉ events) →
      (session.lookup.label.isTruthy = true ∨ ∀ call request, session.calls.length ≤ call →
        ¬ (session.run events).Made call (.label request)) →
      (session.run events).lookup.label = session.lookup.label := by
  -- By induction on the events: none of them may change the label, so none asks for one either.
  induction events with
  | nil => exact fun _ _ _ _ => rfl
  | cons event events ih =>
    intro session sound unchosen unanswered shown
    have kept : ¬ session.Renames event := by
      rintro (item | ⟨value, begun⟩ | ⟨call, reply, inquires⟩)
      · exact unchosen item List.mem_cons_self
      -- A label that is there asks for nothing. Otherwise the call the event makes is never undone.
      · obtain truthy | unasked := shown
        · rw [Lookup.beginLabel_of_truthy truthy] at begun
          cases begun
        · obtain ⟨request, made⟩ := made_of_beginLabel begun
          exact unasked _ request (Nat.le_refl _) (made.run events)
      · exact unanswered call reply inquires List.mem_cons_self
    have same : (session.step event).lookup.label = session.lookup.label := step_label sound kept
    have move := session.step_move event
    rw [← same]
    refine ih (sound.move move) (fun item later => unchosen item (List.mem_cons_of_mem _ later))
      (fun call reply inquires later => unanswered call reply (inquires_of_step sound kept inquires)
        (List.mem_cons_of_mem _ later)) ?_
    rw [same]
    exact shown.imp_right fun unasked call request later =>
      unasked call request (Nat.le_trans move.calls_le later)

end LookupSession

end Flowchart
