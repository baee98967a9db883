import Flowchart.Proofs.Json.Writable
import Flowchart.Proofs.Relation.Failure
import Flowchart.Proofs.Relation.Labels

/-! The placeholder that is shown while a label is on its way. A label that comes takes its place. A
request that ends without a label leaves it where it is, and from then on it passes for a label: it
stays until an option is chosen or another label comes, and nothing asks for a label any more. -/

namespace Flowchart

namespace LookupSession

/-- The ways in which a request for a label comes to its end without one. -/
inductive Stalls (request : LabelRequest) (task call : Nat) : LookupEvent → Prop where
  /-- Something went wrong on the way, other than that the server is unavailable. -/
  | broken (message : String) : Stalls request task call (.reply call (.broken message))
  /-- The answer is no object. -/
  | unreadable {response : Json} (other : response.members? = none) :
    Stalls request task call (.reply call (.answer response))
  /-- The value cannot be written, and it is made a text even where the reply brings a label. -/
  | unwritable (reply : Reply) (endless : request.value.isWritable = false) :
    Stalls request task call (.reply call reply)
  /-- The task is cancelled. -/
  | cancelled : Stalls request task call (.cancel task)

/-- An event gives out the text of the placeholder as a label. -/
inductive Forges (session : LookupSession) : LookupEvent → Prop where
  /-- An option of that label is chosen. -/
  | chosen {item : Json.Members} (named : item.getOrNull "label" = .str Lookup.placeholder) :
    Forges session (.select item)
  /-- The reply to a request for a label says so. -/
  | told {task call : Nat} {request : LabelRequest} {reply : Reply}
    (pending : session.Pends task call (.label request))
    (told : reply.label? request = some (.str Lookup.placeholder)) :
    Forges session (.reply call reply)

/-- Nothing in a run brings another label: no option is chosen, and none of the labels on their way
comes. -/
structure Undisturbed (session : LookupSession) (later : List LookupEvent) : Prop where
  unchosen : ∀ item, .select item ∉ later
  unanswered : ∀ call reply, session.Inquires call → .reply call reply ∉ later

/-- Who waits for a label was started to fetch one. -/
def FetchesLabels (session : LookupSession) : Prop :=
  ∀ task call request, session.Pends task call (.label request) → session.Waits task .label call

/-- A reply that says no label is no object, or none at all, or there is no text of the value. -/
theorem stalls_of_label? {reply : Reply} {request : LabelRequest} (task call : Nat)
    (silent : reply.label? request = none) : Stalls request task call (.reply call reply) := by
  cases shown : request.value.display with
  | error reason => exact .unwritable reply (Json.writtenBy_eq_error shown).1
  | ok text =>
    -- The value could be shown, so it is the reply that brings no label.
    simp only [Reply.label?, shown] at silent
    cases reply with
    | unavailable => cases silent
    | broken message => exact .broken message
    | answer response =>
      cases response with
      | obj members => cases silent
      | _ => exact .unreadable rfl

/-- A list that shows a label answers with it. -/
theorem label_of_truthy {session : LookupSession} (shown : session.lookup.label.isTruthy = true)
    (value : Json) :
    session.label value = session.addTask .label (.finished session.lookup.label) := by
  rw [label, Lookup.beginLabel_of_truthy shown value]

section Begun

variable {session : LookupSession} {value : Json} {request : LabelRequest} {next : Lookup}
  (begun : session.lookup.beginLabel value = some (request, next))

include begun

/-- The placeholder is shown as soon as a label is asked for. -/
theorem label_placeholder : (session.label value).lookup.label = .str Lookup.placeholder := by
  rw [label, begun]
  -- A label that begins to be fetched stands as the placeholder.
  unfold Lookup.beginLabel at begun
  split at begun
  · cases begun
  · cases begun
    rfl

/-- The task that asks for a label is added with its request. -/
theorem label_waits :
    (session.label value).Waits session.tasks.length .label session.calls.length := by
  -- The task that was added stands at the end.
  rw [label, begun]
  exact List.getElem?_concat_length

/-- The label that is asked for is on its way. -/
theorem label_pends :
    (session.label value).Pends session.tasks.length session.calls.length (.label request) := by
  -- The task and the call are both the last ones.
  refine ⟨⟨.label, label_waits begun⟩, ?_⟩
  rw [label, begun]
  exact List.getElem?_concat_length

end Begun

/-- Nobody waits for a label at first. -/
theorem start_fetchesLabels (lookup : Lookup) : (start lookup).FetchesLabels :=
  fun _ _ _ ⟨⟨_, found⟩, _⟩ => by simp [start] at found

/-- A request for a label is over when a label comes, which is shown then, or when it stalls, which
leaves the label as it is. -/
theorem Pends.ended {session : LookupSession} {task call : Nat} {request : LabelRequest}
    {event : LookupEvent} (fetches : session.FetchesLabels)
    (pending : session.Pends task call (.label request))
    (ended : ¬ (session.step event).Asks task call) :
    (∃ reply label, event = .reply call reply ∧ reply.label? request = some label ∧
      (session.step event).lookup.label = label) ∨
    Stalls request task call event ∧ (session.step event).lookup.label = session.lookup.label := by
  -- A task that waits for a label ends by its reply or by being cancelled: the searches, which cut
  -- off other tasks, leave it alone.
  obtain still | ⟨reply, rfl⟩ | rfl | ⟨search, -⟩ := (fetches _ _ _ pending).step event
  · exact absurd ⟨.label, still⟩ ended
  · have shown := pending.label_shown reply
    cases told : reply.label? request with
    | some label => exact .inl ⟨reply, label, rfl, told, by rw [step, shown, told]; rfl⟩
    | none => exact .inr ⟨stalls_of_label? task call told, by rw [step, shown, told]; rfl⟩
  · exact .inr ⟨.cancelled, cancel_apart Lookup.label_apart session task⟩
  · cases search

section Step

variable {session : LookupSession} (sound : session.Consistent) (fetches : session.FetchesLabels)

include sound

/-- A request that has its reply is not on its way any more. -/
theorem not_pends_of_reply {task holder call : Nat} {request held : Request} (reply : Reply)
    (pending : session.Pends holder call held) :
    ¬ (session.reply call reply).Pends task call request := by
  intro still
  have found := sound.findIdx?_awaits pending.asks
  obtain ⟨kind, waits⟩ := pending.asks
  -- The reply is noted with the request.
  have answered := reply_answered found waits pending.made reply
  rw [still.made] at answered
  cases answered

/-- A request whose task is cancelled is not on its way any more. -/
theorem not_asks_of_cancel {task holder call : Nat} (asks : session.Asks holder call) :
    ¬ (session.cancel holder).Asks task call := by
  intro still
  obtain ⟨kind, waits⟩ := asks
  rw [cancel, waits] at still
  -- A call is awaited by one task at most, and that one is over.
  obtain ⟨before, distinct⟩ := asks_cancelTask still
  exact distinct (sound.alone before ⟨kind, waits⟩)

include fetches

/-- Whatever happens, only tasks that were started to fetch labels wait for labels. -/
theorem FetchesLabels.step (event : LookupEvent) : (session.step event).FetchesLabels := by
  intro task call request pending
  have move := session.step_move event
  have alone {other : Nat} (waits : (session.step event).Waits other .label call) :
      (session.step event).Waits task .label call :=
    (sound.move move).alone pending.asks ⟨.label, waits⟩ ▸ waits
  -- The label was on its way before, or it is asked for now.
  obtain ⟨holder, held, before⟩ | ⟨last, asked, made⟩ :=
    move.inquires sound ⟨task, request, pending⟩
  · -- A request that was over after the event would not be on its way.
    obtain still | ⟨reply, rfl⟩ | rfl | ⟨search, -⟩ := (fetches _ _ _ before).step event
    · exact alone still
    · exact absurd pending (not_pends_of_reply sound reply before)
    · exact absurd pending.asks (not_asks_of_cancel sound before.asks)
    · cases search
  · -- The request is new, so the event was a fetch, which starts a task for it.
    obtain earlier | ⟨-, asks⟩ := made_of_step made
    · rw [Made, last, List.getElem?_eq_none (Nat.le_refl _)] at earlier
      cases earlier
    · obtain ⟨value, next, rfl, begun⟩ := asked?_eq_label asks
      exact alone (last ▸ label_waits begun)

/-- Where the placeholder stands for a label on its way, it does so after an event that neither
stalls a request nor gives out the placeholder as a label. -/
theorem inquires_of_placeholder {event : LookupEvent} (honest : ¬ session.Forges event)
    (smooth : ∀ task call request, session.Pends task call (.label request) →
      ¬ Stalls request task call event)
    (before : session.lookup.label = .str Lookup.placeholder → ∃ call, session.Inquires call)
    (shown : (session.step event).lookup.label = .str Lookup.placeholder) :
    ∃ call, (session.step event).Inquires call := by
  by_cases renames : session.Renames event
  · -- The label is another one: the option and the reply would have given out the placeholder, and
    -- a fetch has its request on the way.
    cases renames with
    | select item => exact absurd (.chosen shown) honest
    | label value begun =>
      obtain ⟨⟨request, next⟩, begins⟩ := Option.isSome_iff_exists.mp begun
      exact ⟨_, _, request, label_pends begins⟩
    | reply call reply inquires =>
      obtain ⟨task, request, pending⟩ := inquires
      cases told : reply.label? request with
      | none => exact absurd (stalls_of_label? task call told) (smooth task call request pending)
      | some label =>
        rw [step, pending.label_shown reply, told, Option.getD_some] at shown
        exact absurd (.told pending (shown ▸ told)) honest
  · rw [step_label sound renames] at shown
    obtain ⟨call, task, request, pending⟩ := before shown
    -- The label that was on its way is so still.
    obtain still | ⟨reply, rfl⟩ | rfl | ⟨search, -⟩ := (fetches _ _ _ pending).step event
    · have move := session.step_move event
      have made : session.Made call (.label request) := by rw [Made, pending.made, Option.map_some]
      exact ⟨call, task, request, (sound.move move).pends_of_made ⟨.label, still⟩ (move.made made)⟩
    · exact absurd (.reply call reply ⟨task, request, pending⟩) renames
    · exact absurd .cancelled (smooth task call request pending)
    · cases search

end Step

/-- Only tasks that were started to fetch labels ever wait for labels. -/
theorem FetchesLabels.run (events : List LookupEvent) :
    ∀ {session : LookupSession}, session.Consistent → session.FetchesLabels →
      (session.run events).FetchesLabels := by
  -- Each step keeps it as long as the session is consistent.
  induction events with
  | nil => exact fun _ fetches => fetches
  | cons event events ih =>
    intro session sound fetches
    exact ih (sound.move (session.step_move event)) (fetches.step sound event)

/-- Along a run the placeholder is shown only while a label is on its way, unless a request for a
label has stalled or the placeholder was given out as a label. -/
theorem run_inquires (events : List LookupEvent) :
    ∀ {session : LookupSession}, session.Consistent → session.FetchesLabels →
      (session.lookup.label = .str Lookup.placeholder → ∃ call, session.Inquires call) →
      (session.run events).lookup.label = .str Lookup.placeholder →
      (∃ call, (session.run events).Inquires call) ∨
        ∃ front event back, events = front ++ event :: back ∧
          ((session.run front).Forges event ∨ ∃ task call request,
            (session.run front).Pends task call (.label request) ∧ Stalls request task call event) := by
  -- By induction on the events: the first one is the one to blame, or it keeps the account.
  induction events with
  | nil => exact fun _ _ before shown => .inl (before shown)
  | cons event events ih =>
    intro session sound fetches before shown
    by_cases blamed : session.Forges event ∨ ∃ task call request,
        session.Pends task call (.label request) ∧ Stalls request task call event
    · exact .inr ⟨[], event, events, rfl, blamed⟩
    · have kept := inquires_of_placeholder sound fetches (fun forges => blamed (.inl forges))
        (fun task call request pending stalls =>
          blamed (.inr ⟨task, call, request, pending, stalls⟩)) before
      obtain inquires | ⟨front, later, back, rfl, happened⟩ :=
        ih (sound.move (session.step_move event)) (fetches.step sound event) kept shown
      · exact .inl inquires
      · exact .inr ⟨event :: front, later, back, rfl, happened⟩

/-- Whatever happens to an option list, in whatever order and after whatever delay: asking for a
label puts the placeholder in its place until the request is over. A reply that says a label, and
the refusal of the server, which shows the value itself, take the placeholder away if the value can
be written. A request that ends in any other way leaves it there; then it stays, and every further
fetch is answered with it and asks for nothing, until an option is chosen or another label comes. So
the placeholder outlives its request only if the request stalls: where none has and nobody gives out
the placeholder as a label, it is shown only while a label is on its way. -/
theorem run_placeholder (lookup : Lookup) (events : List LookupEvent) :
    let session := (start lookup).run events
    (∀ value request next, session.lookup.beginLabel value = some (request, next) →
      (session.label value).lookup.label = .str Lookup.placeholder ∧
        (session.label value).Pends session.tasks.length session.calls.length (.label request)) ∧
    (∀ task call request event, session.Pends task call (.label request) →
      ¬ (session.step event).Asks task call →
      (∃ reply label, event = .reply call reply ∧ reply.label? request = some label ∧
        (session.step event).lookup.label = label) ∨
      Stalls request task call event ∧ (session.step event).lookup.label = session.lookup.label ∧
        (session.lookup.label = .str Lookup.placeholder →
          ∀ later, (session.step event).Undisturbed later → ∀ value,
            let late := (session.step event).run later
            late.label value = late.addTask .label (.finished (.str Lookup.placeholder)))) ∧
    (lookup.label ≠ .str Lookup.placeholder → session.lookup.label = .str Lookup.placeholder →
      (∃ call, session.Inquires call) ∨
        ∃ front event back, events = front ++ event :: back ∧
          (((start lookup).run front).Forges event ∨ ∃ task call request,
            ((start lookup).run front).Pends task call (.label request) ∧
              Stalls request task call event)) := by
  intro session
  have sound : session.Consistent := (start_consistent lookup).run events
  have fetches : session.FetchesLabels :=
    .run events (start_consistent lookup) (start_fetchesLabels lookup)
  refine ⟨fun value request next begun => ⟨label_placeholder begun, label_pends begun⟩,
    fun task call request event pending ended => ?_, fun other => ?_⟩
  -- The inquiry ends with a label that is shown, or it stalls and nothing changes.
  · obtain came | ⟨stalls, kept⟩ := pending.ended fetches ended
    · exact .inl came
    · refine .inr ⟨stalls, kept, fun shown later undisturbed value => ?_⟩
      -- The placeholder is a label like any other, so it stays and is not asked for.
      have stuck : (session.step event).lookup.label = .str Lookup.placeholder := kept.trans shown
      have truthy : (session.step event).lookup.label.isTruthy = true := by rw [stuck]; rfl
      have same := run_label later (sound.move (session.step_move event)) undisturbed.unchosen
        undisturbed.unanswered (.inl truthy)
      have answered := label_of_truthy (same.symm ▸ truthy) value
      rwa [same, stuck] at answered
  -- A placeholder that was not there at first was forged or left by an inquiry.
  · exact run_inquires events (start_consistent lookup) (start_fetchesLabels lookup)
      fun shown => absurd shown other

/-- A list of which the label of a value was asked for, after an event. -/
def askedThen (event : LookupEvent) : LookupSession :=
  (start (.start default true (.int 0) (.int 20))).run [.label (.str "7"), event]

/-- Where the server is unavailable the value is shown once the request is over. -/
theorem placeholder_answered : (askedThen (.reply 0 .unavailable)).lookup.label = .str "7" := by
  let asked : LookupSession :=
    (start (.start default true (.int 0) (.int 20))).run [.label (.str "7")]
  have pending : asked.Pends 0 0 (.label ⟨default, .str "7"⟩) := ⟨⟨.label, rfl⟩, rfl⟩
  have ended : ¬ (asked.step (.reply 0 .unavailable)).Asks 0 0 := fun ⟨_, waits⟩ => by cases waits
  obtain ⟨reply, label, same, told, shown⟩ | ⟨stalls, -⟩ :=
    (run_placeholder (.start default true (.int 0) (.int 20)) [.label (.str "7")]).2.1 0 0 _ _
      pending ended
  · cases same
    cases told
    exact shown
  -- An answered request stalls only if its value cannot be written.
  · cases stalls with
    | unwritable _ endless => cases endless

/-- Nothing waits for an answer, the placeholder is shown, and a fetch is answered with it without
asking. -/
def isStuck (session : LookupSession) : Bool :=
  let later := session.label (.str "7")
  session.tasks.all (!·.isPending) && session.lookup.label == .str Lookup.placeholder &&
    later.tasks.getLast? == some ⟨.label, .finished (.str Lookup.placeholder)⟩ &&
    later.calls == session.calls

/-- The placeholder is stuck when something goes wrong on the way to a label, when the answer is no
object, and when the task is cancelled. -/
theorem placeholder_outlives :
    (askedThen (.reply 0 (.broken "boom"))).isStuck = true ∧
      (askedThen (.reply 0 (.answer (.arr [.str "Ann"])))).isStuck = true ∧
      (askedThen (.cancel 0)).isStuck = true := by
  decide +kernel

end LookupSession

end Flowchart
