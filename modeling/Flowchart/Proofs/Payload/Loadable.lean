import Flowchart.Proofs.Export.Standing
import Flowchart.Proofs.Payload.Imported

/-! What the importer asks of a document that was drawn by hand: every node has a type, and the
condition of a branch, if there is one, is an object. -/

namespace Flowchart

namespace Node

/-- Whether the condition of a branch is an object, null or not there. -/
def hasConditionShape (node : Node) : Bool :=
  !node.isBranch || match node.config with
    | .obj settings => match Json.Members.getOrNull settings conditionKey with
      | .null | .obj _ => true
      | _ => false
    | _ => false

/-- Whether a node has what the importer asks for. -/
def isLoadable (node : Node) : Bool := node.type ≠ .str "" && node.hasConditionShape

/-- A node has what the importer asks for if it has a type and a condition of the right kind. -/
theorem isLoadable_iff {node : Node} :
    node.isLoadable = true ↔ node.type ≠ .str "" ∧ node.hasConditionShape = true := by
  simp [isLoadable]

end Node

/-- The rule about conditions says the same of a node of a payload as of the node with its parts. -/
theorem NodePayload.hasConditionShape_eq {payload : NodePayload} {node : Node}
    (type : node.type = .str payload.type) (config : node.config = .obj payload.config) :
    payload.hasConditionShape = node.hasConditionShape := by
  -- Both ask for the same member of the same settings, of branches alone.
  simp only [hasConditionShape, Node.hasConditionShape, Node.isBranch, type, config]
  by_cases branches : Json.str payload.type = branchType
  · cases payload.config.getOrNull conditionKey <;> simp [branches]
  · simp [branches]

/-- A node that the importer reads has what it asks for. -/
theorem NodePayload.isLoadable_of_shape {node : Node} {payload : NodePayload}
    (read : shape node.toJson = .ok payload) : node.isLoadable = true := by
  obtain ⟨members, written, parts, shaped⟩ := shape_eq_ok.mp read
  cases written
  -- The type and the settings stand under their own names.
  have type : node.type = .str payload.type ∧ payload.type ≠ "" := by
    simpa [Shape.field, Json.Members.get?] using parts.type
  have config : node.config = .obj payload.config := by
    simpa [Shape.withDefault, Shape.field, Json.Members.get?] using parts.config
  rw [Node.isLoadable_iff, ← hasConditionShape_eq type.1 config, type.1]
  exact ⟨by simpa using type.2, shaped⟩

/-- A document that the importer reads has nodes with what it asks for. -/
theorem Payload.isLoadable_of_shape {document : Document} {payload : Payload}
    (read : shape document.toJson = .ok payload) :
    ∀ node ∈ document.nodes, node.isLoadable = true := by
  obtain ⟨members, written, parts, -⟩ := shape_eq_ok.mp read
  cases written
  obtain ⟨items, listed, each⟩ := Shape.listOf_eq_ok.mp (Checked.within_eq_ok.mp parts.nodes)
  cases listed
  intro node member
  -- Each node was read on its own, and reading it has asked for what loading asks for.
  obtain ⟨source, -, read⟩ := exists_of_forall₂_left each (List.mem_map_of_mem member)
  exact NodePayload.isLoadable_of_shape read

/-- A payload that stands for a document of nodes with what the importer asks for reads back. -/
theorem Payload.StandsFor.legible_of_loadable {payload : Payload} {document : Document}
    (stands : payload.StandsFor document)
    (loadable : ∀ node ∈ document.nodes, node.isLoadable = true) :
    ∀ node ∈ payload.nodes, node.Legible := by
  intro node member
  -- What the payload says is legible already, but for the condition, which is the node's.
  have whole := stands.whole node member
  have restored : node.toNode ∈ document.nodes := stands.nodes ▸ List.mem_map_of_mem member
  have config : node.toNode.config = .obj node.config := by
    rw [NodePayload.toNode, whole.config]
  have shaped : node.hasConditionShape = true := by
    rw [NodePayload.hasConditionShape_eq rfl config]
    exact (Node.isLoadable_iff.mp (loadable _ restored)).2
  exact ⟨whole.named, whole.typed, shaped, whole.config, whole.style⟩

end Flowchart
