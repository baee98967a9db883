import Flowchart.Proofs.Form.Condition

/-! The comparisons that a condition form offers, and the one that it holds. What is offered goes by
the type of the property. What is held comes from three sides: it is chosen in the form, it is given
up when a property is chosen, or it was stored in the node and is taken over as it is when the form
is opened. Only the last of them does not look at what is offered. -/

namespace Flowchart

/-- A value is the id of a comparison with properties of a type. -/
def PropertyType.Compares (type : PropertyType) (operator : Json) : Prop :=
  ∃ offered ∈ type.operators, operator = .str offered.id

instance (type : PropertyType) (operator : Json) : Decidable (type.Compares operator) :=
  inferInstanceAs (Decidable (∃ _ ∈ _, _))

/-- A condition about a property of a type names a comparison of the type, if it names one. -/
def PropertyType.Suits (type : PropertyType) (condition : Json.Members) : Prop :=
  (condition.getOrNull "operator").isTruthy = true → type.Compares (condition.getOrNull "operator")

/-- The condition that a node stores suits the type of its property, if the property is there. -/
def Node.Fits (node : Node) (properties : List Property) : Prop :=
  ∀ condition property, node.condition? = .ok (some condition) →
    IsAbout condition properties property → property.type.Suits condition

/-- A change in a condition form that chooses anew: a property, or a comparison. -/
def FormChange.ChoosesAnew : FormChange → Prop
  | .choose _ | .compare (some _) _ => True
  | _ => False

namespace ConditionForm

/-- A comparison is one that the form offers, or none. -/
def Offers (form : ConditionForm) (operator : Json) : Prop :=
  operator = .str "" ∨ ∃ offered ∈ form.operators, operator = .str offered.id

/-- The comparison that the form holds is one that it offers, or none. -/
def HoldsOffered (form : ConditionForm) : Prop := form.Offers form.operator

/-- A change in the form sets no comparison that the form does not offer. -/
def Accepts (form : ConditionForm) : FormChange → Prop
  | .compare (some operator) _ => form.Offers operator
  | _ => True

instance (form : ConditionForm) (operator : Json) : Decidable (form.Offers operator) :=
  inferInstanceAs (Decidable (_ ∨ _))

instance (form : ConditionForm) : Decidable form.HoldsOffered :=
  inferInstanceAs (Decidable (form.Offers form.operator))

section Opening

variable {node : Node} {properties : List Property}

/-- A form takes over the stored condition if the property that it is about can be chosen. -/
theorem ofNode_of_about {condition : Json.Members} {property : Property}
    (stored : node.condition? = .ok (some condition))
    (about : IsAbout condition properties property) :
    ofNode node properties =
      { node := node.id, properties, selected := some property
        operators := property.type.operators
        operator := Saved.textOrEmpty (condition.getOrNull "operator")
        value := (condition.get? "value").getD (.str "") } := by
  have selects := isAbout_iff.mpr about
  -- An empty condition names no property, so the form has looked into this one.
  cases condition with
  | nil => cases selects
  | cons first rest =>
    simp only [ofNode, stored, selectProperty, blank, selects]
    rfl

/-- Without a condition about a property that can be chosen a form is opened blank. -/
theorem ofNode_of_no_about (apart : ∀ condition property,
    node.condition? = .ok (some condition) → ¬ IsAbout condition properties property) :
    ofNode node properties = blank node.id properties := by
  unfold ofNode
  split
  · next first rest stored =>
    -- No property of the list has the id that is stored.
    have unselected : ((Json.Members.getOrNull (first :: rest) "propertyId").text?.bind
        (Property.find? properties)) = none :=
      Option.eq_none_iff_forall_ne_some.mpr fun property found =>
        apart _ property stored (isAbout_iff.mp found)
    simp [selectProperty, blank, unselected]
  · rfl

/-- A form that is opened on a node holds what it offers exactly if the stored condition fits. -/
theorem ofNode_holdsOffered : (ofNode node properties).HoldsOffered ↔ node.Fits properties := by
  -- Either the form shows what is stored, or it starts blank, and a blank comparison counts as
  -- offered.
  by_cases shown : ∃ condition property, node.condition? = .ok (some condition) ∧
      IsAbout condition properties property
  · obtain ⟨condition, property, stored, about⟩ := shown
    rw [ofNode_of_about stored about]
    simp only [HoldsOffered, Offers, Saved.textOrEmpty]
    constructor
    · intro held other named same aims counts
      -- The node stores one condition, and that is about one property.
      obtain rfl : condition = other := by simpa [stored] using same
      obtain rfl : property = named :=
        Option.some.inj ((isAbout_iff.mpr about).symm.trans (isAbout_iff.mpr aims))
      rw [if_pos counts] at held
      refine held.resolve_left fun empty => ?_
      rw [empty] at counts
      cases counts
    · intro fits
      split
      · next counts => exact .inr (fits condition property stored about counts)
      · exact .inl rfl
  · have apart : ∀ condition property, node.condition? = .ok (some condition) →
        ¬ IsAbout condition properties property :=
      fun condition property stored about => shown ⟨condition, property, stored, about⟩
    rw [ofNode_of_no_about apart]
    exact ⟨fun _ condition property stored about => (apart condition property stored about).elim,
      fun _ => .inl rfl⟩

end Opening

section Changes

variable {form : ConditionForm}

/-- Choosing a property gives the comparison up. -/
theorem selectProperty_holdsOffered (form : ConditionForm) (id : Json) :
    (form.selectProperty id).HoldsOffered := .inl rfl

/-- After a change that is accepted a form holds what it offers exactly if it did so before, or if
something was chosen anew. -/
theorem after_holdsOffered {change : FormChange} (accepted : form.Accepts change) :
    (form.after change).HoldsOffered ↔ form.HoldsOffered ∨ change.ChoosesAnew := by
  cases change with
  | choose property =>
    exact iff_of_true (form.selectProperty_holdsOffered property) (.inr trivial)
  | compare operator value =>
    -- The comparisons that are offered stay the same.
    cases operator with
    | none => exact (or_false _).to_iff.symm
    | some operator => exact iff_of_true accepted (.inr trivial)
  | _ => exact (or_false _).to_iff.symm

end Changes

section Saving

variable {form : ConditionForm} {node : Json} {properties : List Property}

/-- A form offers the comparisons of the type of its property. -/
theorem Sound.offers_iff (sound : form.Sound node properties) {property : Property}
    (selected : form.selected = some property) {operator : Json} :
    form.Offers operator ↔ operator = .str "" ∨ property.type.Compares operator := by
  -- A sound form offers what the type of its property compares by.
  have operators := sound.operators
  rw [selected] at operators
  rw [Offers, operators]
  rfl

/-- What a form saves is about its property, and it names a comparison of the type of the property
exactly if the form holds what it offers. -/
theorem Sound.saved_compares (sound : form.Sound node properties) {document saved : Document}
    (saves : form.save document = .ok (saved, true)) :
    ∃ property changed condition, form.selected = some property ∧
      saved.node? form.node = some changed ∧ changed.condition? = .ok (some condition) ∧
      condition.getOrNull "propertyId" = .str property.id ∧
      (property.type.Compares (condition.getOrNull "operator") ↔ form.HoldsOffered) := by
  unfold save at saves
  cases complete : form.condition? with
  | none => simp [complete] at saves
  | some condition =>
    obtain ⟨property, selected, compared, rfl⟩ := condition?_eq_some.mp complete
    rw [complete] at saves
    obtain ⟨text, -, rest⟩ := bind_eq_ok.mp saves
    obtain ⟨⟨_, changed⟩, stores, same⟩ := bind_eq_ok.mp rest
    obtain ⟨old, found, made, rfl⟩ := Document.modify_eq_ok.mp stores
    obtain ⟨settings, _, configured, -, -⟩ := Node.withCondition_eq_ok.mp made
    -- All keys of the condition are texts, so it is stored as it is.
    rw [Node.withCondition_obj configured, Except.ok.injEq] at made
    obtain rfl : form.written property text old settings = changed := made
    obtain rfl : document.withNode form.node (form.written property text old settings) = saved :=
      congrArg Prod.fst (Except.ok.inj same)
    refine ⟨property, _, form.stored property, selected, Document.node?_withNode found rfl,
      condition?_written, rfl, ?_⟩
    -- What was saved has a comparison that is not empty.
    have named : form.operator ≠ .str "" := by
      rintro empty
      rw [empty] at compared
      cases compared
    exact ((sound.offers_iff selected).trans (or_iff_right named)).symm

end Saving

end ConditionForm

end Flowchart
