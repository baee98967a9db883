import Flowchart.Proofs.Document.Restored
import Flowchart.Proofs.Json.Members
import Flowchart.Proofs.Logic.Closed
import Flowchart.Proofs.Payload.Reading

/-! Logic as it is handed on. Absent labels and links are left out and read as absent; nulls in the
settings are written and stay; so logic reads back from what it is written as. -/

namespace Flowchart

/-- Of a field that goes by two names the first one counts, if it is there. -/
@[simp] theorem Shape.either_value (get : String → Option Json) (name other : String) :
    (either get name other).value = (get name).or (get other) := by
  cases first : get name <;> cases second : get other <;> simp [either, first, second]

namespace LogicStep

/-- A member that may be left out is seen under its own key if it is there, and under no other
key. -/
theorem get?_textMember (key name : String) (content : Option String) :
    Json.Members.get? (textMember key content) name =
      if key = name then content.map .str else none := by
  cases content <;> simp [textMember, Json.Members.get?]

/-- What is not there is null, and so is a text that is not there. -/
theorem getD_null_map_str (content : Option String) :
    (content.map Json.str).getD .null = .ofText? content := by
  cases content <;> rfl

/-- A step reads back from what it is written as. -/
theorem shape_toJson (step : LogicStep) : shape step.toJson = .ok step := by
  refine Shape.record_eq_ok.mpr ⟨_, rfl, ofFields_eq_ok.mpr ?_⟩
  -- No two parts of a step are written under one name.
  simp [Json.Members.get?_append, Json.Members.get?_cons, get?_textMember, Shape.field,
    Shape.withDefault_eq_ok, getD_null_map_str]

end LogicStep

namespace Logic

/-- Logic reads back from what it is written as. -/
theorem shape_toJson (logic : Logic) : shape logic.toJson = .ok logic := by
  -- The start and the steps are read under their own names, and the steps one by one.
  have steps : Shape.listOf LogicStep.shape (.arr (logic.steps.map LogicStep.toJson)) =
      .ok logic.steps := Shape.listOf_map fun step _ => step.shape_toJson
  refine Shape.record_eq_ok.mpr ⟨_, rfl, ?_⟩
  simp [Shape.withDefault, Shape.field, Shape.either, Json.Members.get?, Checked.build, steps]

/-- Logic that is written in the same way is the same. -/
theorem toJson_injective : Function.Injective toJson := by
  -- What was written is read back, and one text is read in one way.
  intro first second same
  have read := first.shape_toJson
  rw [same, second.shape_toJson, Except.ok.injEq] at read
  exact read.symm

/-- Nothing of logic is lost when it is written. It reads back, so that no two workflows are written
in one way. The logic of a document can be had from what it is written as, and it has under every id
the step that the first node with the id comes to, or no step if there is no such node. -/
theorem toJson_lossless :
    (∀ logic : Logic, shape logic.toJson = .ok logic) ∧ Function.Injective toJson ∧
      ∀ (document : Document) (logic : Logic), document.compile = .ok logic →
        shape logic.toJson = .ok logic ∧ ∀ id : String,
          Option.Rel (fun node step => document.compileNode node = .ok step)
            (document.node? (.str id)) (logic.step? id) := by
  -- Steps are found beside their nodes, since a compiled node is what it renders.
  refine ⟨shape_toJson, toJson_injective, fun document logic compiled => ?_⟩
  refine ⟨logic.shape_toJson, fun id => ?_⟩
  simp only [Document.compileNode_eq_ok]
  exact Document.step?_rel_of_compile compiled id

/-- The logic of the fair copy has nulls in its settings, labels and links that are left out and two
steps that share an id. It reads back, and each node is found as a step. -/
theorem fairCopy_lossless :
    Document.fairCopy.compile = .ok Document.fairCopyLogic ∧
      shape Document.fairCopyLogic.toJson = .ok Document.fairCopyLogic ∧ ∀ id : String,
        Option.Rel (fun node step => Document.fairCopy.compileNode node = .ok step)
          (Document.fairCopy.node? (.str id)) (Document.fairCopyLogic.step? id) :=
  ⟨Document.compile_fairCopy, toJson_lossless.2.2 _ _ Document.compile_fairCopy⟩

end Logic

end Flowchart
