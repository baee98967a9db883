import Mathlib.Data.List.Forall2
import Flowchart.Checked

/-! What it takes for computations that may fail to come to a result, and for values to be read as
texts. -/

namespace Flowchart

section

variable {ε ε' α β : Type}

/-- A chain comes to a result exactly if its first part comes to a value and the rest goes on from
there. -/
theorem bind_eq_ok {first : Except ε α} {next : α → Except ε β} {result : β} :
    first >>= next = .ok result ↔ ∃ value, first = .ok value ∧ next value = .ok result := by
  cases first <;> simp [Bind.bind, Except.bind]

/-- Changing the value of an outcome takes a value. -/
theorem map_eq_ok {outcome : Except ε α} {change : α → β} {result : β} :
    outcome.map change = .ok result ↔ ∃ value, outcome = .ok value ∧ change value = result := by
  cases outcome <;> simp [Except.map]

/-- Telling faults in other words changes no result. -/
@[simp] theorem mapError_eq_ok {outcome : Except ε α} {change : ε → ε'} {result : α} :
    outcome.mapError change = .ok result ↔ outcome = .ok result := by
  -- The two sides differ in the type of the faults that did not come up.
  cases outcome with
  | ok value =>
    show (Except.ok value : Except ε' α) = .ok result ↔ _
    simp
  | error fault =>
    show Except.error (change fault) = .ok result ↔ _
    simp

/-- An outcome has a result exactly if there is one to be had from it. -/
theorem toOption_eq_some {outcome : Except ε α} {result : α} :
    outcome.toOption = some result ↔ outcome = .ok result := by
  cases outcome <;> simp [Except.toOption]

/-- What comes with a result is left as it is when the result is known. -/
theorem eq_mk_ok {turn : β × Except ε α} {result : α}
    (done : turn.2.toOption = some result) : turn = (turn.1, .ok result) := by
  rw [← toOption_eq_some.mp done]

/-- A list is gone through to its end exactly if every item has a result. -/
theorem mapM_eq_ok {each : α → Except ε β} {items : List α} {results : List β} :
    items.mapM each = .ok results ↔
      List.Forall₂ (fun item result => each item = .ok result) items results := by
  induction items generalizing results with
  | nil => simp [Pure.pure, Except.pure, eq_comm]
  | cons item rest ih =>
    simp only [List.mapM_cons, bind_eq_ok, ih, Pure.pure, Except.pure, Except.ok.injEq,
      List.forall₂_cons_left_iff]
    -- Both sides name the first result and the list of the others.
    constructor
    · rintro ⟨first, made, others, later, rfl⟩
      exact ⟨first, others, made, later, rfl⟩
    · rintro ⟨first, others, made, later, rfl⟩
      exact ⟨first, made, others, later, rfl⟩

/-- Reading each of a list of written items gives the list of what they were written from. -/
theorem mapM_map_eq_ok {γ : Type} {write : α → β} {read : β → Except ε γ} {meant : α → γ}
    {items : List α} (each : ∀ item ∈ items, read (write item) = .ok (meant item)) :
    (items.map write).mapM read = .ok (items.map meant) := by
  -- What was written is read back item by item.
  induction items with
  | nil => rfl
  | cons item rest ih =>
    have tail := ih fun later member => each later (List.mem_cons_of_mem _ member)
    simp [List.mapM_cons, each item List.mem_cons_self, tail, Bind.bind, Except.bind, Pure.pure,
      Except.pure]

/-- A list of written items reads back if each of them does. -/
theorem mapM_map_eq_self {write : α → β} {read : β → Except ε α} {items : List α}
    (each : ∀ item ∈ items, read (write item) = .ok item) :
    (items.map write).mapM read = .ok items := by
  simpa using mapM_map_eq_ok each

/-- Every item of a list passes exactly if going through the list comes to its end. -/
theorem forM_eq_ok {each : α → Except ε Unit} {items : List α} :
    items.forM each = .ok () ↔ ∀ item ∈ items, each item = .ok () := by
  -- The first failure would end the loop, so each item has passed.
  induction items with
  | nil => simp [List.forM, Pure.pure, Except.pure]
  | cons item rest ih =>
    rw [List.forall_mem_cons, ← ih]
    exact bind_eq_ok.trans ⟨fun ⟨_, first, later⟩ => ⟨first, later⟩,
      fun ⟨first, later⟩ => ⟨(), first, later⟩⟩

/-- Some results come out exactly if every item has one. -/
theorem exists_mapM_eq_ok {each : α → Except ε β} {items : List α} :
    (∃ results, items.mapM each = .ok results) ↔
      ∀ item ∈ items, ∃ result, each item = .ok result := by
  simp only [mapM_eq_ok]
  -- The list of results grows by one with each item that succeeds.
  induction items with
  | nil => simp
  | cons item rest ih =>
    simp only [List.forall_mem_cons, ← ih, List.forall₂_cons_left_iff]
    constructor
    · rintro ⟨_, first, others, made, later, -⟩
      exact ⟨⟨first, made⟩, others, later⟩
    · rintro ⟨⟨first, made⟩, others, later⟩
      exact ⟨first :: others, first, others, made, later, rfl⟩

/-- Of two lists that go side by side, every item of the first has one at its side. -/
theorem exists_of_forall₂_left {related : α → β → Prop} {items : List α} {others : List β}
    (beside : List.Forall₂ related items others) {item : α} (member : item ∈ items) :
    ∃ other ∈ others, related item other := by
  -- The item stands beside the other one that is at the same place.
  induction beside with
  | nil => cases member
  | cons first rest ih =>
    rcases List.mem_cons.mp member with rfl | later
    · exact ⟨_, List.mem_cons_self, first⟩
    · obtain ⟨other, listed, holds⟩ := ih later
      exact ⟨other, List.mem_cons_of_mem _ listed, holds⟩

/-- Two lists that go side by side are searched alike: something is found in both of them, and then
side by side, or in neither. -/
theorem find?_rel_of_forall₂ {related : α → β → Prop} {items : List α} {others : List β}
    {test : α → Bool} {test' : β → Bool} (beside : List.Forall₂ related items others)
    (tests : ∀ item other, related item other → test item = test' other) :
    Option.Rel related (items.find? test) (others.find? test') := by
  -- Both searches end at the same place, or at none.
  induction beside with
  | nil => exact .none
  | @cons first other _ _ held _ ih =>
    rw [List.find?_cons, List.find?_cons, tests first other held]
    cases test' other with
    | true => exact .some held
    | false => exact ih

/-- Two lists that go beside a third one go side by side, as their items do. -/
theorem forall₂_of_beside {γ : Type} {related : α → β → Prop} {similar : α → γ → Prop}
    {alike : β → γ → Prop} {items : List α} {others : List β} {thirds : List γ}
    (first : List.Forall₂ related items others) (second : List.Forall₂ similar items thirds)
    (each : ∀ item ∈ items, ∀ other third, related item other → similar item third →
      alike other third) : List.Forall₂ alike others thirds := by
  -- Both lists are as long as the items, so they stand beside each other.
  induction first generalizing thirds with
  | nil =>
    cases second
    exact .nil
  | cons held _ ih =>
    cases second with
    | cons kept rest =>
      have later := ih rest fun item member => each item (List.mem_cons_of_mem _ member)
      exact .cons (each _ List.mem_cons_self _ _ held kept) later

/-- Of two lists that go side by side, every item of the second has one at its side. -/
theorem exists_of_forall₂_right {related : α → β → Prop} {items : List α} {others : List β}
    (beside : List.Forall₂ related items others) {other : β} (member : other ∈ others) :
    ∃ item ∈ items, related item other := by
  -- The same lists, looked at from the other side.
  have turned : List.Forall₂ (fun other item => related item other) others items := beside.flip
  exact exists_of_forall₂_left turned member

/-- Two outcomes are alike: they are the same fault, or they are results that are related. -/
inductive OutcomesAlike {α' : Type} (related : α → α' → Prop) : Except ε α → Except ε α' → Prop where
  | ok {first : α} {second : α'} (same : related first second) :
    OutcomesAlike related (.ok first) (.ok second)
  | error (fault : ε) : OutcomesAlike related (.error fault) (.error fault)

namespace OutcomesAlike

variable {α' β' : Type} {related : α → α' → Prop} {similar : β → β' → Prop}

/-- Every outcome is alike to itself. -/
theorem refl {outcome : Except ε α} : OutcomesAlike Eq outcome outcome := by
  cases outcome with
  | ok value => exact .ok rfl
  | error fault => exact .error fault

/-- Outcomes that are alike in the strictest sense are equal. -/
theorem eq {first second : Except ε α} (alike : OutcomesAlike Eq first second) : first = second := by
  cases alike with
  | ok same => rw [same]
  | error fault => rfl

/-- Outcomes are alike in any sense that follows from the one they are alike in. -/
theorem mono {weaker : α → α' → Prop} {first : Except ε α} {second : Except ε α'}
    (alike : OutcomesAlike related first second)
    (each : ∀ value other, related value other → weaker value other) :
    OutcomesAlike weaker first second := by
  cases alike with
  | ok same => exact .ok (each _ _ same)
  | error fault => exact .error fault

/-- Chains are alike if their first parts are and the rests go on alike from there. -/
theorem bind {first : Except ε α} {second : Except ε α'} {next : α → Except ε β}
    {after : α' → Except ε β'} (alike : OutcomesAlike related first second)
    (each : ∀ value other, related value other → OutcomesAlike similar (next value) (after other)) :
    OutcomesAlike similar (first >>= next) (second >>= after) := by
  cases alike with
  | ok same => exact each _ _ same
  | error fault => exact .error fault

/-- Outcomes are alike if they are once their values are changed. -/
theorem of_map {first : Except ε α} {second : Except ε α'} {change : α → β} {change' : α' → β'}
    (alike : OutcomesAlike similar (first.map change) (second.map change')) :
    OutcomesAlike (fun value other => similar (change value) (change' other)) first second := by
  -- A change of the value turns no failure into a success.
  cases first with
  | ok value =>
    cases second with
    | ok other =>
      cases alike with
      | ok same => exact .ok same
    | error fault => cases alike
  | error fault =>
    cases second with
    | ok other => cases alike
    | error fault' =>
      cases alike
      exact .error fault

/-- Outcomes stay alike when faults are told in other words. -/
theorem mapError {first : Except ε α} {second : Except ε α'} (change : ε → ε')
    (alike : OutcomesAlike related first second) :
    OutcomesAlike related (first.mapError change) (second.mapError change) := by
  cases alike with
  | ok same => exact .ok same
  | error fault => exact .error (change fault)

/-- Lists whose items have outcomes that are alike are gone through alike. -/
theorem mapM {γ γ' : Type} {beside : γ → γ' → Prop} {each : γ → Except ε α}
    {other : γ' → Except ε α'} {items : List γ} {others : List γ'}
    (lists : List.Forall₂ beside items others)
    (alike : ∀ item, ∀ item', beside item item' → OutcomesAlike related (each item) (other item')) :
    OutcomesAlike (List.Forall₂ related) (items.mapM each) (others.mapM other) := by
  -- Both go on alike from each pair to the next, and the first failure is the same.
  induction lists with
  | nil => exact .ok .nil
  | cons held _ ih =>
    rw [List.mapM_cons, List.mapM_cons]
    exact (alike _ _ held).bind fun _ _ first => ih.bind fun _ _ rest => .ok (.cons first rest)

end OutcomesAlike

end

namespace Checked

variable {α β : Type}

/-- Outcomes stay alike on the way to a part. -/
theorem within_alike {α' : Type} {related : α → α' → Prop} {value : Checked α} {value' : Checked α'}
    (step : PathStep) (alike : OutcomesAlike related value value') :
    OutcomesAlike related (value.within step) (value'.within step) := by
  -- A fault is put under the step on both sides, and it is the same fault.
  cases alike with
  | ok same => exact .ok same
  | error issues => exact .error _

/-- Records to which parts are handed stay alike if the parts are. -/
theorem part_alike {α' β' : Type} {related : α → α' → Prop} {similar : β → β' → Prop}
    {value : Checked α} {value' : Checked α'} {record : Checked (α → β)} {record' : Checked (α' → β')}
    (parts : OutcomesAlike related value value')
    (records : OutcomesAlike (fun make make' => ∀ part part', related part part' →
      similar (make part) (make' part')) record record') :
    OutcomesAlike similar (part value record) (part value' record') := by
  -- What is amiss with the record is told before what is amiss with the part.
  cases records with
  | ok make =>
    cases parts with
    | ok same => exact .ok (make _ _ same)
    | error issues => exact .error issues
  | error issues =>
    cases parts with
    | ok same => exact .error issues
    | error more => exact .error (issues ++ more)

/-- The way to a part has no say in whether the part is read. -/
@[simp] theorem within_eq_ok {step : PathStep} {outcome : Checked α} {result : α} :
    outcome.within step = .ok result ↔ outcome = .ok result := by
  cases outcome <;> simp [within]

/-- A record is handed a part exactly if both were read. -/
theorem part_eq_ok {value : Checked α} {record : Checked (α → β)} {result : β} :
    part value record = .ok result ↔
      ∃ waiting part, record = .ok waiting ∧ value = .ok part ∧ waiting part = result := by
  cases record <;> cases value <;> simp [part, both, Except.map]

/-- Two outcomes come to a pair exactly if each of them comes to its part. -/
theorem both_eq_ok {first : Checked α} {second : Checked β} {pair : α × β} :
    both first second = .ok pair ↔ first = .ok pair.1 ∧ second = .ok pair.2 := by
  -- Faults of the two are gathered, so both have to be right.
  obtain ⟨value, other⟩ := pair
  cases first <;> cases second <;> simp [both]

/-- The outcomes of a list come to values exactly if each of them is its value. -/
theorem all_eq_ok {outcomes : List (Checked α)} {results : List α} :
    all outcomes = .ok results ↔ outcomes = results.map .ok := by
  -- There are as many results as outcomes, and each outcome gives its own.
  induction outcomes generalizing results with
  | nil => cases results <;> simp [all]
  | cons first rest ih =>
    rw [all, map_eq_ok]
    cases results with
    | nil => simp
    | cons value values => simp [both_eq_ok, ih]

end Checked

namespace Shape

/-- Only a text is read as a text. -/
@[simp] theorem text_eq_ok {value : Json} {content : String} :
    text value = .ok content ↔ value = .str content := by
  cases value <;> simp [text, Readable.view, Json.view, Checked.fault]

/-- Only a text or null is read as a text that may be absent. -/
@[simp] theorem optional_text_eq_ok {value : Json} {content : Option String} :
    optional text value = .ok content ↔ value = .ofText? content := by
  -- Null and texts are read, and every other kind of value is a fault.
  cases value <;> cases content <;>
    simp [optional, text, Readable.view, Json.view, Json.ofText?, Checked.fault, Except.map]

/-- A field that has to be there is read if it is there and its value is. -/
theorem required_eq_ok {α : Type} {shape : Shape Json α} {found : Found Json} {result : α} :
    required shape found = .ok result ↔
      ∃ value, found.value = some value ∧ shape value = .ok result := by
  cases held : found.value <;> simp [required, held, Checked.fault]

/-- A field that may be left out gives its fallback then, and is read if it is there. -/
theorem withDefault_eq_ok {α : Type} {shape : Shape Json α} {fallback : α} {found : Found Json}
    {result : α} :
    withDefault shape fallback found = .ok result ↔ found.value = none ∧ result = fallback ∨
      ∃ value, found.value = some value ∧ shape value = .ok result := by
  -- The fallback is for the member that is missing, and not for null.
  cases held : found.value with
  | none => simp [withDefault, held, eq_comm (a := result)]
  | some value => simp [withDefault, held]

/-- A text that has to be there is read if it is there. -/
@[simp] theorem required_text_eq_ok {found : Found Json} {content : String} :
    required text found = .ok content ↔ found.value = some (.str content) := by
  simp [required_eq_ok]

/-- A text that may be left out is read if it is there, and null counts as left out. -/
@[simp] theorem withDefault_optional_text_eq_ok {found : Found Json} {content : Option String} :
    withDefault (optional text) none found = .ok content ↔
      found.value.getD .null = .ofText? content := by
  -- Missing and null come to the same here.
  cases held : found.value with
  | some value => simp [withDefault, held]
  | none => cases content <;> simp [withDefault, held, Json.ofText?]

/-- Only an object is read as a record, through the values under its names. -/
theorem record_eq_ok {α : Type} {name : String} {fields : (String → Option Json) → Checked α}
    {value : Json} {result : α} :
    record name fields value = .ok result ↔
      ∃ members : Json.Members, value = .obj members ∧ fields members.get? = .ok result := by
  -- Only an object has members to look at.
  cases value with
  | obj members => simp [record, Readable.view, Json.view]
  | _ => simp [record, Readable.view, Json.view, Checked.fault]

/-- Only a text that is not empty is read as one. -/
theorem nonemptyText_eq_ok {value : Json} {content : String} :
    nonemptyText value = .ok content ↔ value = .str content ∧ content ≠ "" := by
  simp only [nonemptyText, bind_eq_ok, text_eq_ok]
  constructor
  · rintro ⟨found, rfl, filled⟩
    -- The text has been read by then, and only has to hold something.
    split at filled
    · cases filled
    · cases filled
      exact ⟨rfl, ‹_›⟩
  · rintro ⟨rfl, filled⟩
    exact ⟨content, rfl, if_neg filled⟩

/-- A text that has to be there and must not be empty is read if it is both. -/
@[simp] theorem required_nonemptyText_eq_ok {found : Found Json} {content : String} :
    required nonemptyText found = .ok content ↔
      found.value = some (.str content) ∧ content ≠ "" := by
  simp only [required_eq_ok, nonemptyText_eq_ok]
  -- A member that is missing is no text.
  constructor
  · rintro ⟨value, held, rfl, filled⟩
    exact ⟨held, filled⟩
  · rintro ⟨held, filled⟩
    exact ⟨_, held, rfl, filled⟩

/-- Only a list is read as one, item by item. -/
theorem listOf_eq_ok {α : Type} {shape : Shape Json α} {value : Json} {results : List α} :
    listOf shape value = .ok results ↔ ∃ items, value = .arr items ∧
      List.Forall₂ (fun item result => shape item = .ok result) items results := by
  cases value with
  | arr items =>
    simp only [Json.arr.injEq, exists_eq_left']
    show Checked.all _ = .ok results ↔ _
    rw [Checked.all_eq_ok, List.forall₂_iff_get, List.ext_getElem_iff]
    -- Where nothing is amiss, the positions of the items leave no trace.
    simp
  | _ => simp [listOf, Readable.view, Json.view, Checked.fault]

/-- Only an object is read as one, with the members it has. -/
@[simp] theorem object_eq_ok {value : Json} {members : Json.Members} :
    object value = .ok members ↔ value = .obj members := by
  -- Only an object passes, and with the members that it has.
  cases value with
  | obj held => rw [object_obj, Except.ok.injEq, Json.obj.injEq]
  | _ => simp [object, objectOf, Readable.view, Json.view, Checked.fault]

end Shape

end Flowchart
