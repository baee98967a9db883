import Flowchart.Proofs.Document.Typed
import Flowchart.Proofs.Json.Members
import Flowchart.Proofs.Payload.Restored

/-! Documents that lose nothing when they are written and read: those built by hand from texts and
finite numbers. -/

namespace Flowchart

namespace Json

/-- No number in a value, at any depth, is a double that is not finite. -/
def IsFinite (value : Json) : Prop := value.finite = value

/-- Members are all finite if the value of each one is. -/
theorem finiteMembers_eq_self {members : Members} :
    finiteMembers members = members ↔ ∀ member ∈ members, member.2.IsFinite := by
  -- Only the values are looked at, and each of them by itself.
  induction members with
  | nil => simp [finiteMembers]
  | cons member rest ih =>
    obtain ⟨key, value⟩ := member
    simp [finiteMembers, ih, IsFinite]

/-- An object is finite if its members are. -/
theorem isFinite_obj {members : Members} :
    (obj members).IsFinite ↔ ∀ member ∈ members, member.2.IsFinite := by
  rw [← finiteMembers_eq_self, IsFinite, finite, Json.obj.injEq]

end Json

/-- An operation that is handed texts for types and labels, and settings of finite numbers. -/
def Operation.IsPortable : Operation → Prop
  | .addNode type label _ => (∃ text, type = .str text ∧ text ≠ "") ∧ ∃ text, label = .ofText? text
  | .updateNode _ patch label => patch.IsFinite ∧ ∃ text, label = .ofText? text
  | .setCondition _ condition text =>
    (∀ pairs, condition.dictionaryPairs = .ok pairs →
      ∀ pair ∈ pairs, (∃ key, pair.1 = .str key) ∧ pair.2.IsFinite) ∧
    ∃ shown, text = .str shown
  | .replace _ => False
  | _ => True

/-- The parts that a portable operation is handed are of the kinds they are declared as. -/
theorem Operation.IsPortable.isTyped {operation : Operation} (portable : operation.IsPortable) :
    operation.IsTyped := by
  -- What can be carried over is made of texts above all.
  cases operation with
  | addNode type label position =>
    obtain ⟨⟨text, spelled, -⟩, labelled⟩ := portable
    exact ⟨⟨text, spelled⟩, labelled⟩
  | updateNode id patch label => exact portable.2
  | setCondition id condition text =>
    exact fun pairs read pair given => (portable.1 pairs read pair given).1
  | replace document => exact portable.elim
  | _ => trivial

/-- Nothing is brought in by a portable operation. -/
theorem Operation.IsPortable.isEdit {operation : Operation} (portable : operation.IsPortable) :
    operation.IsEdit := portable.isTyped.isEdit

/-- A node that loses nothing when it is written and read. -/
structure Node.Portable (node : Node) : Prop where
  named : ∃ id, node.id = .str id ∧ id ≠ ""
  typed : ∃ type, node.type = .str type ∧ type ≠ ""
  labelled : ∃ label, node.label = .str label
  worded : ∃ text, node.text = .str text
  placed : ∃ position, node.position = doubleMembers position ∧ position ≠ []
  sized : ∃ width height, node.width = .float width ∧ node.height = .float height
  config : ∃ members, node.config = .obj members ∧ ∀ member ∈ members, member.2.IsFinite
  style : ∀ member ∈ node.style, member.2.IsFinite
  /-- All keys of the condition are texts. -/
  keyed : node.oddSteps = []

namespace Node

/-- The looks of nodes are told in texts and whole numbers. -/
theorem fresh_style (settings : Settings) (id type label : Json) (x y : Float) :
    ∀ member ∈ (fresh settings id type label x y).style, member.2.IsFinite := by
  -- The style is one of two constants, and neither holds a double.
  rw [← Json.finiteMembers_eq_self]
  simp only [fresh]
  split <;> rfl

/-- A fresh node of a type is portable. -/
theorem fresh_portable (settings : Settings) {id type : String} (named : id ≠ "")
    (typed : type ≠ "") (label : Option String) (x y : Float) :
    (fresh settings (.str id) (.str type) (.ofText? label) x y).Portable where
  -- A fresh node has doubles for its place and size, and settings that are empty.
  named := ⟨id, rfl, named⟩
  typed := ⟨type, rfl, typed⟩
  labelled := fresh_label settings (.str id) type label x y
  worded := fresh_text settings (.str id) type label x y
  placed := ⟨[("x", x), ("y", y)], rfl, by simp⟩
  sized := ⟨_, _, rfl, rfl⟩
  config := ⟨[], rfl, nofun⟩
  style := fresh_style _ _ _ _ _ _
  keyed := rfl

/-- A node stays portable under another label. -/
theorem Portable.relabel {node : Node} (portable : node.Portable) (label : Option String) :
    (node.relabel (.ofText? label)).Portable := by
  -- A label that is given is a text, for the label as for the text.
  cases label with
  | none => exact portable
  | some label => exact { portable with labelled := ⟨label, rfl⟩, worded := ⟨label, rfl⟩ }

/-- A node stays portable when settings of finite numbers are merged into it. -/
theorem Portable.update {node changed : Node} (portable : node.Portable) {patch : Json}
    (finite : patch.IsFinite) (label : Option String)
    (updated : node.update patch (.ofText? label) = .ok changed) : changed.Portable := by
  -- Settings are merged member by member, and a label takes the place of two texts.
  obtain ⟨settings, members, held, rfl, rfl⟩ := Node.update_eq_ok.mp updated
  obtain ⟨config, same, old⟩ := portable.config
  cases same.symm.trans held
  refine Portable.relabel ?_ label
  refine { portable with
    config := ⟨_, rfl, Json.Members.merge_forall old (Json.isFinite_obj.mp finite)⟩, keyed := ?_ }
  simp only [portable.keyed, ite_self]

/-- A node stays portable under a condition of finite numbers whose keys are texts. -/
theorem Portable.withCondition {node changed : Node} (portable : node.Portable)
    {condition : Json} {text : String}
    (clean : ∀ pairs, condition.dictionaryPairs = .ok pairs →
      ∀ pair ∈ pairs, (∃ key, pair.1 = .str key) ∧ pair.2.IsFinite)
    (stored : node.withCondition condition (.str text) = .ok changed) : changed.Portable := by
  obtain ⟨settings, pairs, held, read, rfl⟩ := Node.withCondition_eq_ok.mp stored
  obtain ⟨config, same, old⟩ := portable.config
  cases same.symm.trans held
  -- Only the condition is new among the settings.
  refine { portable with config := ⟨_, rfl, ?_⟩, worded := ⟨text, rfl⟩, keyed := ?_ }
  · intro member inside
    rcases Json.Members.mem_set inside with before | same
    · exact old member before
    · rw [same]
      refine Json.isFinite_obj.mpr fun entry listed => ?_
      obtain ⟨pair, given, rfl⟩ := List.mem_map.mp listed
      exact (clean pairs read pair given).2
  · exact Json.oddSteps_eq_nil fun pair given => (clean pairs read pair given).1

end Node

/-- A document that loses nothing when it is written and read. -/
structure Document.Portable (document : Document) : Prop where
  nodes : ∀ node ∈ document.nodes, node.Portable
  viewport : document.viewport = homeViewport

namespace Workspace

/-- Every portable operation keeps a document portable. -/
theorem portable_step {space next : Workspace} {operation : Operation}
    (given : operation.IsPortable) (step : space.Step operation next)
    (portable : space.document.Portable) : next.document.Portable where
  nodes := by
    refine step.nodes_forall ?_ ?_ ?_ portable.nodes
    · rintro _ _ position x y rfl
      obtain ⟨⟨type, rfl, typed⟩, label, rfl⟩ := given
      exact Node.fresh_portable _ (space.supply.idAfter_ne_empty _) typed label x y
    · rintro id patch _ old changed rfl merged before
      obtain ⟨finite, label, rfl⟩ := given
      exact before.update finite label merged
    · rintro id condition _ old changed rfl stored before
      obtain ⟨clean, text, rfl⟩ := given
      exact before.withCondition clean stored
  viewport := by
    -- No operation moves the view.
    cases step <;> exact portable.viewport

/-- Portable operations that start with an empty document build a portable one. -/
theorem run_portable {operations : List Operation}
    (each : ∀ operation ∈ operations, operation.IsPortable) (settings : Settings)
    (supply : Supply) : ((start settings supply).run operations).document.Portable :=
  run_keeps (fun _ => Operation.IsPortable.isEdit) portable_step each ⟨nofun, rfl⟩

end Workspace

end Flowchart
