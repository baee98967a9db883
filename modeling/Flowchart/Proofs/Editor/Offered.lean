import Flowchart.Proofs.Editor.Forms
import Flowchart.Proofs.Form.Offered

/-! Sessions in which only comparisons are set that are offered. The properties may be replaced at any
time, and a form that is opened afterwards shows what was stored before. The main statement puts the
blame for every comparison that is held and not offered: it was in the node when the form was opened,
and neither a property nor a comparison was chosen since. -/

namespace Flowchart

namespace EditorSession

/-- An action sets no comparison in a form that the form does not offer. -/
def SetsOffered (session : EditorSession) : EditorAction → Prop
  | .changeForm place change =>
    ∀ form, session.forms[place]? = some (.condition form) → form.Accepts change
  | _ => True

section Runs

variable {place : Nat}

/-- A condition form is sound after a run of actions. If only comparisons were set that are offered,
it holds what it offers exactly if it did so before or if something was chosen anew. -/
theorem run_condition {node : Json} {properties : List Property} {actions : List EditorAction} :
    ∀ {session : EditorSession} {form : ConditionForm}, session.Follows SetsOffered actions →
      session.forms[place]? = some (.condition form) → form.Sound node properties →
      ∃ last : ConditionForm, (session.run actions).forms[place]? = some (.condition last) ∧
        last.Sound node properties ∧ (last.HoldsOffered ↔ form.HoldsOffered ∨
          ∃ change ∈ EditorAction.changesAt place actions, change.ChoosesAnew) := by
  -- The form stays sound, and from the first choice of a property on it holds what is offered.
  induction actions with
  | nil =>
    intro session form _ open_ sound
    exact ⟨form, open_, sound, by simp [EditorAction.changesAt]⟩
  | cons action rest ih =>
    intro session form follows open_ sound
    obtain ⟨first, later⟩ := follows
    have next := after_form open_ action
    rw [EditorAction.changesAt, List.filterMap_cons]
    cases about : action.changeAt? place with
    | none =>
      rw [about] at next
      exact ih later next sound
    | some change =>
      rw [about, Option.elim_some, ConditionForm.change_eq] at next
      obtain ⟨last, reached, kept, holds⟩ := ih later next (sound.after change)
      obtain rfl := EditorAction.changeAt?_eq_some.mp about
      -- The rule of the session allows this change of the form as it stands now.
      have accepted : form.Accepts change := first form open_
      refine ⟨last, reached, kept, ?_⟩
      rw [holds, ConditionForm.after_holdsOffered accepted, or_assoc, List.exists_mem_cons_iff]
      rfl

/-- A form for settings is one after every run. -/
theorem run_step {session : EditorSession} {form : StepForm} (actions : List EditorAction)
    (open_ : session.forms[place]? = some (.step form)) :
    ∃ last : StepForm, (session.run actions).forms[place]? = some (.step last) := by
  -- Changes of a form for settings lead to a form for settings.
  obtain ⟨last, reached, -⟩ := form.run_continues (EditorAction.changesAt place actions)
  exact ⟨last, reached ▸ run_form actions open_⟩

end Runs

/-- In a session that starts without open forms, and in which only comparisons are set that are
offered: every open condition form offers the comparisons of the type of its property. The comparison
that it holds is one of them, or none, exactly if the condition of its node fitted the properties when
the form was opened, or if a property or a comparison was chosen since. And what it saves compares as
the type of its property does exactly if it holds what it offers. -/
theorem run_holdsOffered {session : EditorSession} (unopened : session.forms = [])
    {actions : List EditorAction} (offered : session.Follows SetsOffered actions) {place : Nat}
    {form : ConditionForm} (open_ : (session.run actions).forms[place]? = some (.condition form)) :
    form.operators = (form.selected.map fun property => property.type.operators).getD [] ∧
    (∃ before id later node, actions = before ++ .openForm id :: later ∧
      (session.run before).forms.length = place ∧
      (session.run before).editor.document.node? id = some node ∧
      (form.HoldsOffered ↔ node.Fits (session.run before).editor.properties ∨
        ∃ change ∈ EditorAction.changesAt place later, change.ChoosesAnew)) ∧
    ∀ document saved, form.save document = .ok (saved, true) →
      ∃ property changed condition, form.selected = some property ∧
        saved.node? form.node = some changed ∧ changed.condition? = .ok (some condition) ∧
        condition.getOrNull "propertyId" = .str property.id ∧
        (property.type.Compares (condition.getOrNull "operator") ↔ form.HoldsOffered) := by
  -- There is the moment at which the form was opened, and then there are the changes since.
  obtain ⟨before, there⟩ | ⟨before, id, later, opening, rfl, last, opens⟩ := run_opened open_
  · rw [unopened] at there
    cases there
  have placed := openForm_form opens
  rw [last] at placed
  rw [run_append, run_cons] at open_
  obtain ⟨node, found, ⟨-, rfl⟩ | ⟨-, rfl⟩⟩ := Editor.edit_eq_some opens
  · obtain ⟨_, reached, sound, holds⟩ := run_condition (follows_append.mp offered).2.2 placed
      (ConditionForm.ofNode_sound node _)
    obtain rfl : form = _ := Form.condition.inj (Option.some.inj (open_.symm.trans reached))
    rw [ConditionForm.ofNode_holdsOffered] at holds
    exact ⟨sound.operators, ⟨before, id, later, node, rfl, last, found, holds⟩,
      fun _ _ => sound.saved_compares⟩
  · obtain ⟨_, reached⟩ := run_step later placed
    cases open_.symm.trans reached

/-- An age, as a number or of another type. -/
def age (type : PropertyType) : Property := ⟨"age", "Age", type, none⟩

/-- A branch that stores nothing yet. -/
def undecided : Node :=
  { (default : Node) with
    id := .str "b"
    type := branchType
    config := .obj [] }

/-- A session with the branch in its document, and with the age as a number to decide by. -/
def deciding : EditorSession where
  editor :=
    { tools := [], properties := [age .number], catalog := .empty, host := none
      inlineForms := false, options := .nowhere
      space := (Workspace.start default (.numbered [])).withDocument
        { Document.empty with nodes := [undecided] } }
  forms := []

/-- Ages are compared in a form that is saved. -/
def comparing : List EditorAction :=
  [.openForm (.str "b"), .changeForm 0 (.choose (.str "age")),
    .changeForm 0 (.compare (some (.str "gt")) (some (.str "5"))), .saveForm 0]

/-- A form that shows the comparison with an age of a type. -/
def showing (type : PropertyType) : ConditionForm :=
  ⟨.str "b", [age type], some (age type), type.operators, .str "gt", .str "5"⟩

/-- Every comparison that is made on the way is offered. -/
theorem comparing_follows (rest : List EditorAction)
    (later : (deciding.run comparing).Follows SetsOffered rest) :
    deciding.Follows SetsOffered (comparing ++ rest) := by
  -- Only the last action sets a comparison, and the form it sets it in offers it.
  refine follows_append.mpr ⟨⟨trivial, fun _ _ => trivial, fun form open_ => ?_, trivial, trivial⟩,
    later⟩
  obtain rfl := Form.condition.inj (Option.some.inj open_)
  exact .inr ⟨⟨"gt", ">"⟩, by decide, rfl⟩

/-- A form that is opened once more saves a comparison of numbers. -/
theorem comparing_compares :
    let later := deciding.run (comparing ++ [.openForm (.str "b")])
    later.forms[1]? = some (.condition (showing .number)) ∧
    ∃ saved changed condition, (showing .number).save later.editor.document = .ok (saved, true) ∧
      saved.node? (.str "b") = some changed ∧ changed.condition? = .ok (some condition) ∧
      PropertyType.number.Compares (condition.getOrNull "operator") := by
  intro later
  have open_ : later.forms[1]? = some (.condition (showing .number)) := by rfl
  -- The form was opened after the comparison was stored, and it is saved as it is.
  obtain ⟨saved, saves⟩ : ∃ saved,
      (showing .number).save later.editor.document = .ok (saved, true) := ⟨_, by rfl⟩
  obtain ⟨-, -, stores⟩ :=
    run_holdsOffered (by rfl) (comparing_follows [.openForm (.str "b")] ⟨trivial, trivial⟩) open_
  obtain ⟨property, changed, condition, selected, found, stored, -, compares⟩ :=
    stores _ saved saves
  cases selected
  exact ⟨open_, saved, changed, condition, saves, found, stored, compares.mpr (by decide)⟩

/-- When the age has become a text meanwhile, a form that is opened once more still holds the
comparison of numbers, which it does not offer, and it saves that. -/
theorem retyped_holds_other :
    let actions := comparing ++ [.setProperties [age .string], .openForm (.str "b")]
    let later := deciding.run actions
    deciding.Follows SetsOffered actions ∧
      later.forms[1]? = some (.condition (showing .string)) ∧
      ¬ (showing .string).HoldsOffered ∧
      ∃ saved changed condition,
        (showing .string).save later.editor.document = .ok (saved, true) ∧
        saved.node? (.str "b") = some changed ∧ changed.condition? = .ok (some condition) ∧
        ¬ PropertyType.string.Compares (condition.getOrNull "operator") :=
  -- The property is of another type when the form is opened again.
  ⟨comparing_follows _ ⟨trivial, trivial, trivial⟩, by rfl, by decide, _, _, _, by rfl, by rfl, by rfl,
    by decide⟩

end EditorSession

end Flowchart
