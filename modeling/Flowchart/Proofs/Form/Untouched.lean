import Flowchart.Proofs.Form.Step
import Flowchart.Proofs.Payload.Restored

/-! A form for settings in which nothing is entered. It puts the settings of its node over themselves
and the text of the node over its label, so saving it changes nothing where these are one text. -/

namespace Flowchart

/-- A change that enters nothing: no label, no values and no option. -/
def FormChange.EntersNothing : FormChange → Prop
  | .enter _ _ | .select _ _ => False
  | _ => True

/-- A label as it is given: a text, or null. -/
def Json.IsLabel (label : Json) : Prop := ∃ text, label = .ofText? text

/-- A label is given as a text or as null. -/
@[simp] theorem Json.isLabel_iff {label : Json} :
    label.IsLabel ↔ label = .null ∨ ∃ text, label = .str text := by
  -- No label at all is told as null.
  constructor
  · rintro ⟨text, rfl⟩
    cases text with
    | none => exact .inl rfl
    | some text => exact .inr ⟨text, rfl⟩
  · rintro (rfl | ⟨text, rfl⟩)
    · exact ⟨none, rfl⟩
    · exact ⟨some text, rfl⟩

/-- A change in a form that gives a text for the label, if it gives one. -/
def FormChange.IsWorded : FormChange → Prop
  | .enter (some label) _ => label.IsLabel
  | _ => True

/-- The label and the text of a node are texts. -/
structure Node.Worded (node : Node) : Prop where
  label : ∃ text, node.label = .str text
  text : ∃ text, node.text = .str text

/-- What holds of a node that nobody but an editor has written to: its settings are an object with one
member for each key, all keys of its condition are texts, and its label is its text unless the text
is that of a condition. -/
structure Node.InStep (node : Node) : Prop where
  labelled : node.isBranch = false → node.label = node.text
  configured : ∃ settings : Json.Members, node.config = .obj settings ∧
    (settings.map Prod.fst).Nodup
  keyed : node.oddSteps = []

namespace StepForm

variable {form : StepForm} {node : Node} {document : Document}

/-- A form that another one has become without anything to save: it is about the same node, with the
same label and the same values. -/
structure Alike (form next : StepForm) : Prop where
  node : next.node = form.node
  label : next.label = form.label
  values : next.values = form.values

/-- Only a label that is entered changes the label. -/
theorem after_label (form : StepForm) (change : FormChange) :
    (form.after change).label =
      match change with
      | .enter label _ => label.getD form.label
      | _ => form.label := by
  -- A choice and an answer change lookups and values only.
  cases change with
  | select key item =>
    simp only [after, select]
    cases form.lookup? key with
    | none => rfl
    | some lookup =>
      cases item with
      | obj members =>
        dsimp only
        cases (lookup.select members).2 <;> rfl
      | _ => rfl
  | fetch replies =>
    obtain ⟨lookups, same⟩ := resolveKeys_eq (form.lookups.map Prod.fst) form replies
    simp only [after, loadLabels, same]
  | _ => rfl

/-- The label of a form stays a text, or null, when texts are entered for it. -/
theorem after_isLabel {change : FormChange} (given : change.IsWorded) (held : form.label.IsLabel) :
    (form.after change).label.IsLabel := by
  rw [after_label]
  -- Only what is entered can bring a new label.
  cases change with
  | enter label values =>
    cases label with
    | none => exact held
    | some label => exact given
  | _ => exact held

/-- A change that enters nothing leaves nothing else to save. -/
theorem after_alike {change : FormChange} (nothing : change.EntersNothing) :
    form.Alike (form.after change) := by
  have continues := form.after_continues change
  refine ⟨continues.node, ?_, ?_⟩
  · rw [after_label]
    -- What remains are changes of what is shown, and they keep label and values.
    cases change with
    | enter => exact nothing.elim
    | _ => rfl
  · rw [continues.values]
    cases change with
    | enter | select => exact nothing.elim
    | _ => rfl

/-- Changes that enter nothing leave nothing else to save. -/
theorem run_alike (form : StepForm) {changes : List FormChange}
    (nothing : ∀ change ∈ changes, change.EntersNothing) :
    ∃ last, changes.foldl Form.change (.step form) = .step last ∧ form.Alike last := by
  -- A form stays like itself from each change to the next.
  induction changes generalizing form with
  | nil => exact ⟨form, rfl, rfl, rfl, rfl⟩
  | cons change rest ih =>
    obtain ⟨first, later⟩ := List.forall_mem_cons.mp nothing
    obtain ⟨last, reached, alike⟩ := ih (form.after change) later
    have before := form.after_alike first
    refine ⟨last, ?_, alike.node.trans before.node, alike.label.trans before.label,
      alike.values.trans before.values⟩
    rw [List.foldl_cons, change_eq, reached]

/-- Alike forms are saved alike. -/
theorem Alike.save_eq {next : StepForm} (alike : form.Alike next) (document : Document) :
    next.save document = form.save document := by
  simp only [save, alike.node, alike.label, alike.values]

/-- A form is opened with a text for its label on a node that shows texts. -/
theorem ofNode_isLabel (worded : node.Worded) (sections : List Section) (start : Field → Lookup) :
    (ofNode node sections start).label.IsLabel := by
  obtain ⟨⟨label, labelled⟩, ⟨text, spelled⟩⟩ := worded
  have kept : Saved.textOrEmpty (.str label) = .str label := Saved.textOrEmpty_ofText? (some label)
  simp only [ofNode, labelled, spelled, kept]
  -- The form starts with the text of its node where there is one.
  split
  · exact ⟨some text, rfl⟩
  · exact ⟨some label, rfl⟩

section

variable (inStep : node.InStep) (step : node.isBranch = false)
  (worded : ∃ text, node.text = .str text) (sections : List Section) (start : Field → Lookup)
include inStep step worded

/-- A form that is opened on a step shows the text of the step, the empty one, too. -/
theorem ofNode_label : (ofNode node sections start).label = node.text := by
  obtain ⟨text, spelled⟩ := worded
  have kept : Saved.textOrEmpty (.str text) = .str text := Saved.textOrEmpty_ofText? (some text)
  simp only [ofNode, inStep.labelled step, spelled]
  -- Label and text of the node agree, so either of them may be taken.
  split
  · rfl
  · exact kept

/-- A step stays as it is when a form is put into it that was opened on it. -/
theorem written_ofNode {settings : Json.Members} (configured : node.config = .obj settings)
    (distinct : (settings.map Prod.fst).Nodup) :
    (ofNode node sections start).written node settings = node := by
  have values : (ofNode node sections start).values = settings := by
    simp [ofNode, configured, Json.members?]
  have label := ofNode_label inStep step worded sections start
  have given : node.text ≠ .null := by
    obtain ⟨text, spelled⟩ := worded
    intro missing
    cases spelled.symm.trans missing
  -- Settings that are merged into themselves keep even the order of their keys.
  rw [written, values, label, Json.Members.merge_self distinct, Node.relabel_of_ne_null given,
    inStep.keyed, ite_self, ← configured, ← inStep.keyed]
  exact congrArg (fun label => { node with label }) (inStep.labelled step).symm

/-- Saving a form that was opened on a step, and in which nothing was entered, leaves the document as
it is. -/
theorem save_untouched (found : document.node? node.id = some node) {changes : List FormChange}
    (nothing : ∀ change ∈ changes, change.EntersNothing) :
    ∃ last, changes.foldl Form.change (.step (ofNode node sections start)) = .step last ∧
      last.save document = .ok (document, true) := by
  obtain ⟨settings, configured, distinct⟩ := inStep.configured
  obtain ⟨last, reached, alike⟩ := (ofNode node sections start).run_alike nothing
  refine ⟨last, reached, ?_⟩
  -- The form is about the node that it was opened on, and merging its own settings into it changes
  -- nothing.
  have placed : document.node? (ofNode node sections start).node = some node := found
  rw [alike.save_eq, save_eq placed configured,
    written_ofNode inStep step worded sections start configured distinct,
    Document.withNode_self placed]

end

end StepForm

end Flowchart
