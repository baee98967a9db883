import Flowchart.Form.Session
import Flowchart.Proofs.Relation.Labels

/-! The labels of chosen options in a step form. What happens to a form happens to each of its
option lists as a run of events of its own, and a list shows the label of what was chosen until a
label comes that was asked for before. -/

namespace Flowchart

/-- An event of a form chooses an option of the list under a key. -/
inductive FormEvent.Chooses (key : String) (item : Json.Members) : FormEvent → Prop where
  /-- It is chosen in the form. -/
  | select : Chooses key item (.select key (.obj item))
  /-- It is chosen in the list itself. -/
  | list : Chooses key item (.list key (.select item))

/-- What an event of a form may let happen to the list under a key. -/
inductive FormEvent.Brings (key : String) : FormEvent → LookupEvent → Prop where
  /-- A fetch may go on at any event. -/
  | label (event : FormEvent) (value : Json) : Brings key event (.label value)
  | select (item : Json.Members) : Brings key (.select key (.obj item)) (.select item)
  | list (event : LookupEvent) : Brings key (.list key event) event

namespace FormSession

/-- From one state of a form to another, the list under a key has gone through allowed events
only. -/
def Follows (session next : FormSession) (key : String) (allowed : LookupEvent → Prop) : Prop :=
  ∃ trace : List LookupEvent, (∀ event ∈ trace, allowed event) ∧
    next.lookup? key = (session.lookup? key).map fun list => list.run trace

/-- An event asks for a label at most. -/
def Labelling (event : LookupEvent) : Prop := ∃ value, event = .label value

section Follows

variable {session middle next : FormSession} {key : String} {allowed : LookupEvent → Prop}

/-- A list that is left alone goes through nothing. -/
theorem Follows.of_eq (same : next.lookup? key = session.lookup? key) :
    session.Follows next key allowed := by
  -- Nothing happened to the list.
  refine ⟨[], by simp, ?_⟩
  rw [same]
  exact Option.map_id.symm ▸ rfl

/-- What a list goes through is put together. -/
theorem Follows.trans (first : session.Follows middle key allowed)
    (second : middle.Follows next key allowed) : session.Follows next key allowed := by
  -- What a list went through in both parts is put together in their order.
  obtain ⟨early, early_allowed, middle_eq⟩ := first
  obtain ⟨late, late_allowed, next_eq⟩ := second
  refine ⟨early ++ late, fun event member => ?_, ?_⟩
  · obtain before | after := List.mem_append.mp member
    · exact early_allowed event before
    · exact late_allowed event after
  · rw [next_eq, middle_eq, Option.map_map]
    congr 1
    funext list
    exact (List.foldl_append ..).symm

/-- More may be allowed. -/
theorem Follows.mono {more : LookupEvent → Prop} (follows : session.Follows next key allowed)
    (weaker : ∀ event, allowed event → more event) : session.Follows next key more := by
  -- The same events are allowed by more.
  obtain ⟨trace, known, same⟩ := follows
  exact ⟨trace, fun event member => weaker event (known event member), same⟩

end Follows

/-- What happens to the list under one key happens to no other list. -/
theorem lookup?_atList (session : FormSession) (key other : String) (event : LookupEvent) :
    (session.atList key event).lookup? other =
      if other = key then (session.lookup? other).map fun list => list.step event
      else session.lookup? other := by
  -- The keys stay, so the same entry is found as before.
  have kept : ((fun entry => entry.1 == other) ∘ fun entry : String × LookupSession =>
      if entry.1 == key then (entry.1, entry.2.step event) else entry) =
      fun entry => entry.1 == other := by
    funext entry
    by_cases here : entry.1 = key <;> simp [here]
  rw [lookup?, lookup?, atList, List.find?_map, kept, Option.map_map]
  cases found : session.lookups.find? fun entry => entry.1 == other with
  | none => split <;> rfl
  | some entry =>
    have named : entry.1 = other := by simpa using List.find?_some found
    by_cases here : other = key
    · simp [named, here]
    · simp [named, here]

/-- What happens to the list under a key is what it goes through. -/
theorem atList_follows (session : FormSession) (key other : String) (event : LookupEvent) :
    session.Follows (session.atList other event) key fun brought => key = other ∧ brought = event := by
  -- An event reaches the list under its key, and no other.
  by_cases same : key = other
  · refine ⟨[event], by simp [same], ?_⟩
    rw [lookup?_atList, if_pos same]
    rfl
  · exact .of_eq (by rw [lookup?_atList, if_neg same])

/-- A fetch asks the lists for labels, and for nothing else. -/
theorem goOn_follows (key : String) (keys : List String) :
    ∀ (session : FormSession) (labels : Json.Members),
      session.Follows (session.goOn labels keys).1 key Labelling := by
  -- By induction on the keys: each of them is passed over or asked for its label.
  induction keys with
  | nil => exact fun _ _ => .of_eq rfl
  | cons asked rest ih =>
    intro session labels
    have labelled (value : Json) : session.Follows (session.atList asked (.label value)) key
        Labelling := (session.atList_follows key asked (.label value)).mono
      fun event ⟨_, same⟩ => ⟨value, same⟩
    unfold goOn
    dsimp only
    split
    · exact ih session labels
    · split
      · exact ih session labels
      · split
        · exact (labelled _).trans (ih _ _)
        · exact labelled _

/-- A fetch that goes on asks the lists for labels, and for nothing else. -/
theorem resume_follows (session : FormSession) (key : String) (fetch : LabelFetch) :
    session.Follows (session.resume fetch).1 key Labelling := by
  unfold resume
  -- A fetch goes on only after an answer, and going on asks for labels at most.
  split
  · split
    · exact goOn_follows ..
    · exact .of_eq rfl
    · exact .of_eq rfl
    · exact .of_eq rfl
  · exact .of_eq rfl

/-- Fetches that go on ask the lists for labels, and for nothing else. -/
theorem resumeEach_follows (key : String) (fetches : List LabelFetch) :
    ∀ session : FormSession, session.Follows (session.resumeEach fetches).1 key Labelling := by
  -- One fetch after the other goes on, and what each brings is put behind the rest.
  induction fetches with
  | nil => exact fun _ => .of_eq rfl
  | cons fetch rest ih => exact fun session => (session.resume_follows key fetch).trans (ih _)

/-- Letting fetches go on asks the lists for labels, and for nothing else. -/
theorem resumeAll_follows (session : FormSession) (key : String) :
    session.Follows session.resumeAll key Labelling :=
  resumeEach_follows key session.fetches session

/-- A choice is a choice in the list. -/
theorem lookup?_select (session : FormSession) (key other : String) (item : Json.Members) :
    (session.select other (.obj item)).lookup? key =
      (session.atList other (.select item)).lookup? key := by
  unfold select
  split
  · rename_i same
    cases same
    dsimp only
    split <;> rfl
  · rename_i absent
    -- Without a list nothing is chosen.
    rw [lookup?_atList]
    split
    · rename_i same
      subst same
      cases found : session.lookup? key with
      | none => rfl
      | some list => exact absurd rfl (absent list item found)
    · rfl

/-- What is no option is not chosen. -/
theorem select_of_other (session : FormSession) (key : String) {item : Json}
    (other : ∀ members, item ≠ .obj members) : session.select key item = session := by
  -- Only an object can be chosen.
  unfold select
  split
  · exact absurd rfl (other _)
  · rfl

/-- At every event a list goes through nothing but what the event brings. -/
theorem step_follows (session : FormSession) (event : FormEvent) (key : String) :
    session.Follows (session.step event) key (event.Brings key) := by
  have label (brought : LookupEvent) (labelling : Labelling brought) : event.Brings key brought := by
    obtain ⟨value, rfl⟩ := labelling
    exact .label event value
  -- A choice and an event of a list reach one list; fetching may ask any list for labels.
  cases event with
  | fetch => exact (goOn_follows key _ session []).mono label
  | select other item =>
    cases item with
    | obj members =>
      have follows : session.Follows (session.atList other (.select members)) key
          ((FormEvent.select other (.obj members)).Brings key) := by
        refine (session.atList_follows key other (.select members)).mono ?_
        rintro _ ⟨rfl, rfl⟩
        exact .select members
      exact follows.trans (.of_eq (session.lookup?_select key other members))
    | _ =>
      refine .of_eq (congrArg (fun next => next.lookup? key) (session.select_of_other other ?_))
      nofun
  | enter values => exact .of_eq rfl
  | list other event =>
    -- After the event of a list the fetches that waited for it go on.
    refine ((session.atList_follows key other event).mono ?_).trans
      ((resumeAll_follows _ key).mono label)
    rintro _ ⟨rfl, rfl⟩
    exact .list _

/-- Along a run a list goes through nothing but what the events bring. -/
theorem run_follows (key : String) (events : List FormEvent) :
    ∀ session : FormSession, session.Follows (session.run events) key
      fun brought => ∃ event ∈ events, event.Brings key brought := by
  -- What a list goes through is brought to it by one event after the other.
  induction events with
  | nil => exact fun _ => .of_eq rfl
  | cons event events ih =>
    intro session
    have first := (session.step_follows event key).mono fun brought brings =>
      (⟨event, List.mem_cons_self, brings⟩ : ∃ other ∈ event :: events, other.Brings key brought)
    refine first.trans ((ih (session.step event)).mono ?_)
    rintro brought ⟨later, member, brings⟩
    exact ⟨later, List.mem_cons_of_mem _ member, brings⟩

/-- After a choice the list shows what was chosen, and asks for labels at most. -/
theorem chooses_follows (session : FormSession) {key : String} {item : Json.Members}
    {choice : FormEvent} (chooses : choice.Chooses key item) :
    (session.atList key (.select item)).Follows (session.step choice) key Labelling := by
  -- A choice in the form lets every fetch go on, a choice in the list none.
  cases chooses with
  | select => exact .of_eq (session.lookup?_select key key item)
  | list => exact resumeAll_follows _ key

/-- The lists of a form are consistent in themselves. -/
theorem run_consistent {form : StepForm} {events : List FormEvent} {key : String}
    {list : LookupSession} (found : ((start form).run events).lookup? key = some list) :
    list.Consistent := by
  obtain ⟨trace, -, same⟩ := run_follows key events (start form)
  rw [found] at same
  obtain ⟨before, held, rfl⟩ := Option.map_eq_some_iff.mp same.symm
  -- The list goes back to one that nothing had happened to.
  obtain ⟨entry, listed, rfl⟩ := Option.map_eq_some_iff.mp held
  obtain ⟨opened, -, rfl⟩ := List.mem_map.mp (List.mem_of_find?_eq_some listed)
  exact (LookupSession.start_consistent opened.2).run trace

/-- Choosing an option leaves the labels on their way as they are. -/
theorem inquires_select {list : LookupSession} {item : Json.Members} {call : Nat} :
    (list.step (.select item)).Inquires call ↔ list.Inquires call := by
  constructor <;> rintro ⟨task, request, asks, made⟩ <;> exact ⟨task, request, asks, made⟩

/-- A form whose one relation field has a value. -/
def stored : StepForm where
  node := .str "a"
  sections := []
  label := .str "Notify"
  values := [("who", .str "7")]
  lookups := [("who", .start default true (.int 0) (.int 20))]

/-- The option that is chosen instead of the value. -/
def chosen : Json.Members := [("id", .str "8"), ("label", .str "New")]

/-- The label of the value is there. -/
def oldLabel : FormEvent := .list "who" (.reply 0 (.answer (.obj [("label", .str "Old")])))

/-- Whatever happens to a step form, in whatever order and after whatever delay: once an option of a
relation field is chosen, in the form or in its list, the list shows the label of the option until
another one is chosen, as long as no label comes that was on its way when the option was chosen. An
option without a label is the only one that a label may still be asked for. A label that does come
is shown instead, although it belongs to the value from before. -/
theorem run_chosen (form : StepForm) (before later : List FormEvent) {key : String}
    {item : Json.Members} {choice : FormEvent} (chooses : choice.Chooses key item)
    {list : LookupSession} (found : ((start form).run before).lookup? key = some list) :
    (∃ shown, ((((start form).run before).step choice).run later).lookup? key = some shown ∧
      ((∀ event ∈ later, ∀ other, ¬ event.Chooses key other) →
        (∀ call reply, list.Inquires call → .list key (.reply call reply) ∉ later) →
        ((item.getOrNull "label").isTruthy = true ∨
          ∀ call request, list.calls.length ≤ call → ¬ shown.Made call (.label request)) →
        shown.lookup.label = item.getOrNull "label")) ∧
      ∀ (task call : Nat) (request : LabelRequest) (reply : Reply),
        list.Pends task call (.label request) →
        ((list.step (.select item)).step (.reply call reply)).lookup.label =
          (reply.label? request).getD (item.getOrNull "label") := by
  have sound : list.Consistent := run_consistent found
  -- The choice reaches the list, and some requests for labels may come with it.
  obtain ⟨labels, labelling, chosen_eq⟩ :=
    ((start form).run before).chooses_follows chooses
  obtain ⟨trace, brought, shown_eq⟩ :=
    run_follows key later (((start form).run before).step choice)
  rw [lookup?_atList, if_pos rfl, found, Option.map_some, Option.map_some] at chosen_eq
  rw [chosen_eq, Option.map_some] at shown_eq
  refine ⟨⟨_, shown_eq, fun unchosen unanswered shown => ?_⟩,
    fun task call request reply pending => ?_⟩
  · -- All that the list went through since is put behind the choice.
    have together : ((list.step (.select item)).run labels).run trace =
        (list.step (.select item)).run (labels ++ trace) := (List.foldl_append ..).symm
    rw [together] at shown ⊢
    refine LookupSession.run_label (labels ++ trace) (sound.move (list.step_move _))
      (fun other member => ?_) (fun call reply inquires member => ?_) shown
    · obtain among | among := List.mem_append.mp member
      -- What the choice itself has brought are requests for labels, no choices and no replies.
      · obtain ⟨value, other⟩ := labelling _ among
        cases other
      · obtain ⟨event, after, brings⟩ := brought _ among
        cases brings with
        | select => exact unchosen _ after other .select
        | list => exact unchosen _ after other .list
    · obtain among | among := List.mem_append.mp member
      · obtain ⟨value, other⟩ := labelling _ among
        cases other
      · obtain ⟨event, after, brings⟩ := brought _ among
        cases brings
        exact unanswered call reply (inquires_select.mp inquires) after
  -- A choice leaves the request on its way, and its reply is shown.
  · have still : (list.step (.select item)).Pends task call (.label request) :=
      ⟨pending.asks, pending.made⟩
    exact still.label_shown reply

/-- What is chosen once the label of the old value is there is shown, whatever is fetched and however
the list is used after that. -/
theorem stored_chosen :
    let session := (start stored).run [.fetch, oldLabel]
    (session.lookup? "who").map (fun list => list.lookup.label) = some (.str "Old") ∧
      ∃ shown, ((session.step (.select "who" (.obj chosen))).run
          [.fetch, .list "who" .toggle, .list "who" (.search (.str "n"))]).lookup? "who" =
        some shown ∧ shown.lookup.label = .str "New" := by
  intro session
  obtain ⟨⟨shown, found, label⟩, -⟩ :=
    run_chosen stored [.fetch, oldLabel] [.fetch, .list "who" .toggle, .list "who" (.search (.str "n"))]
      (FormEvent.Chooses.select : FormEvent.Chooses "who" chosen _) rfl
  refine ⟨by decide +kernel, shown, found, label ?_ (by simp) (.inl (by decide +kernel))⟩
  -- None of the later events chooses anything.
  intro event member other chooses
  cases chooses <;> simp at member

/-- What is chosen before the label of the old value is there is stored, but the old label is shown
in the end. -/
theorem stored_overwritten :
    let session := (start stored).run [.fetch, .select "who" (.obj chosen), oldLabel]
    chosen.getOrNull "label" = .str "New" ∧ session.values = [("who", .str "8")] ∧
      (session.lookup? "who").map (fun list => list.lookup.label) = some (.str "Old") := by
  -- The late label is shown over the new choice, and the value is the new one.
  decide +kernel

end FormSession

end Flowchart
