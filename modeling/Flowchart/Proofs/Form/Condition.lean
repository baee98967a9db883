import Flowchart.Form
import Flowchart.Proofs.Completeness
import Flowchart.Proofs.Document.InPlace
import Flowchart.Proofs.Json.Members
import Flowchart.Proofs.Json.Writable
import Flowchart.Proofs.Logic.Closed

/-! A condition while it is edited, and once it is stored. Four readers look into a stored
condition: the check, the logic of the document, the form that is opened on it, and the next save of
that form. The main statement says that all of them read what the form showed when it was saved,
whatever was chosen and entered in it before. What is stored is shown on the node as well, so nothing
is stored that cannot be shown. -/

namespace Flowchart

namespace ConditionForm

/-- The members of the condition that a form shows with a property. -/
def stored (form : ConditionForm) (property : Property) : Json.Members :=
  [("propertyId", .str property.id), ("operator", form.operator), ("value", form.value)]

/-- What holds of a form on a node from its opening on: the property that it shows is the first one
of its id, and the comparisons that it offers are those of the property. -/
structure Sound (form : ConditionForm) (node : Json) (properties : List Property) : Prop where
  placed : form.node = node
  offered : form.properties = properties
  selected : ∀ property, form.selected = some property →
    Property.find? properties property.id = some property
  operators : form.operators =
    (form.selected.map fun property => property.type.operators).getD []

/-- A property and a comparison are chosen in a form. -/
structure Chosen (form : ConditionForm) (properties : List Property) (property : Property) :
    Prop where
  listed : property ∈ properties
  selected : form.selected = some property
  compared : form.operator.isTruthy = true

/-- What the text on the node is made of can be written: the value, which flags are not compared
with, and the comparison itself where it is not one that the property offers. -/
structure Showable (form : ConditionForm) (property : Property) : Prop where
  compared : form.chosenOperator? = none → form.operator.isWritable = true
  valued : property.type ≠ .boolean → form.value.isWritable = true

/-- The form after a change; what is done in forms for settings does nothing. -/
def after (form : ConditionForm) : FormChange → ConditionForm
  | .choose property => form.selectProperty property
  | .compare operator value =>
    { form with operator := operator.getD form.operator, value := value.getD form.value }
  | _ => form

/-- What is read of a node whose condition a form has stored: every reader finds what the form
shows. -/
structure ReadAlike (form : ConditionForm) (properties : List Property) (property : Property)
    (document saved : Document) (changed : Node) : Prop where
  /-- The check asks for a value, unless the property is a flag. -/
  checked : changed.conditionLack? properties = .ok none ↔
    property.type = .boolean ∨ form.value.SaysSomething
  /-- There is logic if the parts of the document are of the declared kinds. -/
  compiled : document.Declared → ∃ logic, saved.compile = .ok logic
  /-- The step under the id of the node is a branch with the condition of the form. -/
  exported : ∀ logic, saved.compile = .ok logic → ∃ id step, changed.id = .str id ∧
    logic.step? id = some step ∧ .str step.type = branchType ∧ step.config = form.stored property
  /-- A form that is opened on the node shows what this one shows. -/
  reopened : ofNode changed properties = form
  /-- Saving that form changes nothing. -/
  again : (ofNode changed properties).save saved = .ok (saved, true)

section Changes

variable {form : ConditionForm} {node : Json} {properties : List Property}

/-- A form in which nothing is chosen is sound. -/
theorem blank_sound (node : Json) (properties : List Property) :
    (blank node properties).Sound node properties where
  -- No property is selected, so none has to be found.
  placed := rfl
  offered := rfl
  selected _ chosen := by cases chosen
  operators := rfl

/-- The property that is found under an id is the first one of its own id. -/
theorem find?_own {id : String} {property : Property}
    (found : Property.find? properties id = some property) :
    Property.find? properties property.id = some property := by
  -- What is found under an id has that id.
  have same : property.id = id :=
    eq_of_beq (List.find?_some (p := fun property : Property => property.id == id) found)
  rwa [same]

/-- A form stays sound when another property is chosen, or none. -/
theorem Sound.selectProperty (sound : form.Sound node properties) (id : Json) :
    (form.selectProperty id).Sound node properties where
  placed := sound.placed
  offered := sound.offered
  selected property chosen := by
    -- Only a text can be the id of a property.
    obtain ⟨text, -, found⟩ := Option.bind_eq_some_iff.mp chosen
    rw [sound.offered] at found
    exact find?_own found
  operators := rfl

/-- A form stays sound under another comparison and another value. -/
theorem Sound.compare (sound : form.Sound node properties) (operator value : Json) :
    ({ form with operator, value } : ConditionForm).Sound node properties where
  -- Soundness does not speak of the comparison or the value.
  placed := sound.placed
  offered := sound.offered
  selected := sound.selected
  operators := sound.operators

/-- A form is sound when it is opened, whatever the node stores. -/
theorem ofNode_sound (node : Node) (properties : List Property) :
    (ofNode node properties).Sound node.id properties := by
  have start := blank_sound node.id properties
  unfold ofNode
  split
  · next first rest _ =>
    -- The stored property is chosen first, and only then is the rest of the condition shown.
    have chosen := start.selectProperty (Json.Members.getOrNull (first :: rest) "propertyId")
    dsimp only
    split
    · exact chosen
    · exact chosen.compare _ _
  · exact start

/-- A change leaves a form for a condition what it is. -/
theorem change_eq (form : ConditionForm) (change : FormChange) :
    Form.change (.condition form) change = .condition (form.after change) := by
  cases change <;> rfl

/-- A form stays on its node. -/
theorem after_node (form : ConditionForm) (change : FormChange) :
    (form.after change).node = form.node := by
  cases change <;> rfl

/-- A form stays sound whatever is done in it. -/
theorem Sound.after (sound : form.Sound node properties) (change : FormChange) :
    (form.after change).Sound node properties := by
  -- Only the choice of a property and of a comparison touches such a form.
  cases change with
  | choose property => exact sound.selectProperty property
  | compare operator value => exact sound.compare _ _
  | _ => exact sound

/-- A form is still sound after everything that is done in it. -/
theorem Sound.run (changes : List FormChange) :
    ∀ {form : ConditionForm}, form.Sound node properties →
      ∃ last : ConditionForm, changes.foldl Form.change (.condition form) = .condition last ∧
        last.Sound node properties := by
  -- A change leads from one sound form to another one.
  induction changes with
  | nil => exact fun {form} sound => ⟨form, rfl, sound⟩
  | cons change changes ih =>
    intro form sound
    rw [List.foldl_cons, change_eq]
    exact ih (sound.after change)

/-- A sound form shows properties of its list only. -/
theorem Sound.listed (sound : form.Sound node properties) {property : Property}
    (selected : form.selected = some property) : property ∈ properties :=
  List.mem_of_find?_eq_some (sound.selected property selected)

end Changes

section Saving

variable {form : ConditionForm} {document : Document} {node : Node} {settings : Json.Members}
  {properties : List Property} {property : Property} {text : String}

/-- A form has a condition to store exactly if a property and a comparison are chosen. -/
theorem condition?_eq_some {condition : Json.Members} :
    form.condition? = some condition ↔ ∃ property, form.selected = some property ∧
      form.operator.isTruthy = true ∧ condition = form.stored property := by
  -- Without a property there is no condition. With one the comparison decides.
  unfold condition?
  cases form.selected with
  | none => simp
  | some property => simp [stored, @eq_comm _ condition]

/-- The condition of a form is stored as soon as a property and a comparison are chosen. -/
theorem condition?_of_chosen (chosen : form.Chosen properties property) :
    form.condition? = some (form.stored property) :=
  condition?_eq_some.mpr ⟨property, chosen.selected, chosen.compared, rfl⟩

/-- A form that has a condition to store has a property and a comparison chosen. -/
theorem Sound.chosen (sound : form.Sound node.id properties) {condition : Json.Members}
    (complete : form.condition? = some condition) :
    ∃ property, form.Chosen properties property := by
  -- In a sound form a selected property is one of the list.
  obtain ⟨property, selected, compared, -⟩ := condition?_eq_some.mp complete
  exact ⟨property, sound.listed selected, selected, compared⟩

/-- The text that shows a condition about a property: the label of the property, the comparison and,
unless the property is a flag, the value. -/
def shownText (form : ConditionForm) (property : Property) : String :=
  property.label ++ "\n" ++ (form.chosenOperator?.map Operator.label).getD form.operator.bare ++
    if property.type = .boolean then "" else " " ++ form.value.bare

/-- The comparison is shown by its label, or else as it is stored. -/
theorem comparison_eq_ok
    (compared : form.chosenOperator? = none → form.operator.isWritable = true) :
    form.comparison =
      .ok ((form.chosenOperator?.map Operator.label).getD form.operator.bare) := by
  -- A comparison that is offered has a label. Any other is shown as it is, which may fail.
  unfold comparison
  cases offered : form.chosenOperator? with
  | none => exact Json.writtenBy_of_writable (compared offered)
  | some operator => rfl

section

variable (selected : form.selected = some property)

include selected

/-- A condition is shown if the parts of its text can be written. -/
theorem summary_of_showable (showable : form.Showable property) :
    form.summary = .ok (form.shownText property) := by
  rw [summary, comparison_eq_ok showable.compared, selected, shownText]
  -- The value is a part of the text unless the property is a flag.
  by_cases flag : property.type = .boolean
  · simp [flag, Bind.bind, Except.bind, Pure.pure, Except.pure]
  · have value := Json.display_eq_ok.mpr ⟨showable.valued flag, rfl⟩
    simp [flag, value, Bind.bind, Except.bind, Pure.pure, Except.pure, String.append_assoc]

/-- A condition is not shown if a part of its text has a number with too many digits. -/
theorem summary_of_not_showable (hidden : ¬ form.Showable property) :
    form.summary = .error .tooManyDigits := by
  -- The comparison is written first, and the value after it.
  by_cases compared : form.chosenOperator? = none → form.operator.isWritable = true
  · -- The comparison is shown, so it is the value that cannot be.
    obtain ⟨unflagged, endless⟩ :
        property.type ≠ .boolean ∧ form.value.isWritable = false := by
      by_contra shown
      rw [not_and, Bool.not_eq_false] at shown
      exact hidden ⟨compared, shown⟩
    have value : form.value.writtenBy Json.bare = .error .tooManyDigits :=
      Json.writtenBy_of_unwritable endless
    rw [summary, comparison_eq_ok compared, selected]
    simp [unflagged, Json.display, value, Bind.bind, Except.bind]
  · obtain ⟨unoffered, endless⟩ := Classical.not_imp.mp compared
    rw [summary, comparison, unoffered]
    simp only [Json.display, Json.writtenBy_of_unwritable (Bool.eq_false_iff.mpr endless)]
    rfl

end

/-- The node with the condition that a form shows with a property, and with a text. -/
def written (form : ConditionForm) (property : Property) (text : String) (node : Node)
    (settings : Json.Members) : Node :=
  { node with
    config := .obj (settings.set conditionKey (.obj (form.stored property)))
    text := .str text
    oddSteps := [] }

/-- The condition of the node is the one that was written. -/
theorem condition?_written :
    (form.written property text node settings).condition? = .ok (some (form.stored property)) := by
  simp [Node.condition?, Node.settings, written, Except.map, Json.members?]

/-- Without a property or a comparison nothing is stored. -/
theorem save_of_unchosen (sound : form.Sound node.id properties)
    (unchosen : ¬ ∃ property, form.Chosen properties property) :
    form.save document = .ok (document, false) := by
  -- There is no condition to store.
  unfold save
  cases complete : form.condition? with
  | none => rfl
  | some condition => exact absurd (sound.chosen complete) unchosen

/-- A condition without a text is not stored. -/
theorem save_of_unshown (chosen : form.Chosen properties property) {reason : Unwritable}
    (hidden : form.summary = .error reason) : form.save document = .error (.unwritable reason) := by
  -- The text of the condition is made before anything is stored.
  simp only [save, condition?_of_chosen chosen, hidden]
  rfl

section

variable (sound : form.Sound node.id properties) (chosen : form.Chosen properties property)

include sound chosen

/-- A condition that is chosen is written to the node of the form, once its text is made. -/
theorem save_of_chosen (shown : form.summary = .ok text)
    (found : document.node? node.id = some node) (configured : node.config = .obj settings) :
    form.save document =
      .ok (document.withNode node.id (form.written property text node settings), true) := by
  -- The condition goes to the node of the form, together with its text.
  have stores : document.setCondition node.id (.obj (form.stored property)) (.str text) =
      .ok (document.withNode node.id (form.written property text node settings),
        form.written property text node settings) :=
    Document.modify_eq_ok.mpr ⟨node, found, Node.withCondition_obj configured _ _, rfl⟩
  simp only [save, condition?_of_chosen chosen, shown, Except.mapError, sound.placed, Bind.bind,
    Except.bind, stores]
  rfl

/-- Opening a form on the node shows what was saved. -/
theorem ofNode_written : ofNode (form.written property text node settings) properties = form := by
  have selects : Property.find? properties property.id = some property :=
    sound.selected property chosen.selected
  have operators := sound.operators
  rw [chosen.selected] at operators
  -- The comparison is kept as it counts, and the value is kept even if it is null.
  obtain ⟨kept, same, selected, offered, operator, value⟩ := form
  obtain rfl : kept = node.id := sound.placed
  obtain rfl : same = properties := sound.offered
  obtain rfl : selected = some property := chosen.selected
  have counts : operator.isTruthy = true := chosen.compared
  subst operators
  unfold ofNode
  rw [condition?_written]
  simp [stored, selectProperty, blank, written, Json.Members.getOrNull, Json.Members.get?,
    Json.text?, selects, counts]

/-- The condition that a form shows is set unless there is nothing to compare the property with. -/
theorem conditionSet_stored (named : property.id ≠ "") :
    ConditionSet (form.stored property) properties ↔
      property.type = .boolean ∨ form.value.SaysSomething := by
  have about : IsAbout (form.stored property) properties property :=
    isAbout_iff.mp (sound.selected property chosen.selected)
  have names : NamesComparison (form.stored property) := by
    refine ⟨?_, chosen.compared⟩
    simpa [stored, Json.Members.getOrNull, Json.Members.get?, Json.isTruthy] using named
  constructor
  · intro set
    by_cases flag : property.type = .boolean
    · exact .inl flag
    · exact .inr (set.value property about flag)
  · intro enough
    refine ⟨names, fun other same valued => ?_⟩
    -- The condition is about one property only.
    have first := (isAbout_iff.mpr about).symm.trans (isAbout_iff.mpr same)
    cases first
    exact enough.resolve_left valued

/-- The check finds nothing lacking unless there is nothing to compare the property with. -/
theorem conditionLack?_written (named : property.id ≠ "") :
    (form.written property text node settings).conditionLack? properties = .ok none ↔
      property.type = .boolean ∨ form.value.SaysSomething := by
  rw [Node.conditionLack?_eq_none, ← conditionSet_stored sound chosen named]
  -- What the check finds under the key is the condition that was stored.
  constructor
  · rintro ⟨_, condition, configured, held, set⟩
    cases configured
    rw [Json.Members.getOrNull_set, Json.obj.injEq] at held
    exact held ▸ set
  · intro set
    exact ⟨_, form.stored property, rfl, Json.Members.getOrNull_set .., set⟩

/-- Saving a form in the document that it was saved in changes nothing. -/
theorem save_again (shown : form.summary = .ok text)
    (found : document.node? node.id = some node) :
    form.save (document.withNode node.id (form.written property text node settings)) =
      .ok (document.withNode node.id (form.written property text node settings), true) := by
  have there : (document.withNode node.id (form.written property text node settings)).node? node.id =
      some (form.written property text node settings) := Document.node?_withNode found rfl
  -- The condition and the text are there already.
  have same : form.written property text (form.written property text node settings)
      (settings.set conditionKey (.obj (form.stored property))) =
        form.written property text node settings := by
    simp [written]
  have placed : form.Sound (form.written property text node settings).id properties := sound
  rw [save_of_chosen placed chosen shown there rfl, same]
  exact congrArg (fun last => Except.ok (last, true))
    (Document.withNode_withNode found (rfl : (form.written property text node settings).id = _) _)

end

/-- The parts of a document are still of the declared kinds when a condition is stored. -/
theorem withNode_declared (declared : document.Declared)
    (found : document.node? node.id = some node) :
    (document.withNode node.id (form.written property text node settings)).Declared where
  typed other member := by
    -- Only the settings and the text of one node are new, and both are of the declared kinds.
    obtain rfl | kept := Document.mem_replaceFirst member
    · have typed := declared.typed node (Document.node?_mem found)
      exact { typed with configured := ⟨_, rfl⟩, keyed := fun _ => rfl }
    · exact declared.typed other kept
  targets := declared.targets

/-- Under the id of a branch that stores the condition of a form, there is a step with that
condition. -/
theorem step_written (branches : node.isBranch = true)
    (there : document.node? node.id = some (form.written property text node settings)) {logic : Logic}
    (compiled : document.compile = .ok logic) :
    ∃ id step, node.id = .str id ∧ logic.step? id = some step ∧ .str step.type = branchType ∧
      step.config = form.stored property := by
  -- The id of a node that comes to a step is a text, and the step is looked for under it.
  have typed := Document.typed_of_compile compiled _ (Document.node?_mem there)
  obtain ⟨id, spelled⟩ := typed.named
  have own : node.id = .str id := spelled
  rw [own] at there
  obtain ⟨step, listed, renders⟩ := Document.step?_of_compile compiled there
  refine ⟨id, step, own, listed, ?_, ?_⟩
  · rw [← renders.type]
    exact of_decide_eq_true branches
  · have held := renders.settings
    have used : (form.written property text node settings).isBranch = true := branches
    rw [Node.stepSettings, if_pos used, condition?_written] at held
    exact (Except.ok.inj held).symm

/-- What a form has stored is read alike by everything that looks into it. -/
theorem Sound.readAlike (sound : form.Sound node.id properties)
    (chosen : form.Chosen properties property) (shown : form.summary = .ok text)
    (found : document.node? node.id = some node) (branches : node.isBranch = true)
    (named : property.id ≠ "") (settings : Json.Members) :
    form.ReadAlike properties property document
      (document.withNode node.id (form.written property text node settings))
      (form.written property text node settings) where
  -- The check, the logic and a form that is opened again all read what was stored.
  checked := conditionLack?_written sound chosen named
  compiled declared := (withNode_declared declared found).exists_compile
  exported _ compiled := step_written branches (Document.node?_withNode found rfl) compiled
  reopened := ofNode_written sound chosen
  again := by
    rw [ofNode_written sound chosen]
    exact save_again sound chosen shown found

end Saving

/-- Two properties of one id, a number and a flag. -/
def twins : List Property := [⟨"age", "Age", .number, none⟩, ⟨"age", "Adult", .boolean, none⟩]

/-- A branch that stores a condition about a property that is gone. -/
def forgetful : Node :=
  { (default : Node) with
    id := .str "b"
    type := branchType
    config := .obj [("note", .str "kept"),
      (conditionKey, .obj [("propertyId", .str "gone"), ("operator", .str "eq")])] }

end ConditionForm

end Flowchart
