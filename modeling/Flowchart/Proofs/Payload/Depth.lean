import Flowchart.Proofs.Payload.Restored

/-! How deep the settings and styles of nodes are nested. A document that came in is written down as
deep as it is, and restored as deep as it is written, so its nodes tell whether it could be. There is
no depth that a value could not have, so the limit on it excludes documents. -/

namespace Flowchart

namespace Json

mutual

/-- A value keeps its depth when doubles in it give way to null. -/
theorem depth_finite (value : Json) : value.finite.depth = value.depth := by
  -- The recursion is that of the values, and a double is as deep as null.
  match value with
  | .num (.float x) =>
    rw [finite]
    split <;> rfl
  | .num (.int _) | .null | .bool _ | .str _ => rfl
  | .arr items => rw [finite, depth, depth, depthOfItems_finiteItems items]
  | .obj members => rw [finite, depth, depth, depthOfMembers_finiteMembers members]

/-- The items of a list keep their depth. -/
theorem depthOfItems_finiteItems (items : List Json) :
    depthOfItems (finiteItems items) = depthOfItems items := by
  -- A double and null are equally deep.
  match items with
  | [] => rfl
  | item :: rest =>
    rw [finiteItems, depthOfItems, depthOfItems, depth_finite item, depthOfItems_finiteItems rest]

/-- The members of an object keep their depth. -/
theorem depthOfMembers_finiteMembers (members : List (String × Json)) :
    depthOfMembers (finiteMembers members) = depthOfMembers members := by
  -- Numbers have no depth, whatever becomes of them.
  match members with
  | [] => rfl
  | (key, value) :: rest =>
    rw [finiteMembers, depthOfMembers, depthOfMembers, depth_finite value,
      depthOfMembers_finiteMembers rest]

end

/-- A list in a list, and so on, around an empty one. -/
def nested : Nat → Json
  | 0 => .arr []
  | count + 1 => .arr [nested count]

/-- A list is one deeper than what it holds. -/
@[simp] theorem depth_nested (count : Nat) : (nested count).depth = count + 1 := by
  -- Each list adds one level.
  induction count with
  | zero => rfl
  | succ count ih => rw [nested, depth, depthOfItems, depthOfItems, ih, Nat.max_zero]

/-- There is no double in lists of lists. -/
@[simp] theorem finite_nested (count : Nat) : (nested count).finite = nested count := by
  -- There is no double in it.
  induction count with
  | zero => rfl
  | succ count ih => rw [nested, finite, finiteItems, finiteItems, ih]

end Json

/-- Whether no value in the settings or in the style of a node is nested too deep to be imported. -/
def Node.isShallow (node : Node) : Bool :=
  Json.depthOfMembers (node.config.members?.getD []) ≤ NodePayload.maxDepth &&
    Json.depthOfMembers node.style ≤ NodePayload.maxDepth

/-- A restored node is as deep as the node of the payload. -/
theorem NodePayload.isShallow_toNode (node : NodePayload) :
    node.toNode.isShallow = node.isShallow := by
  simp [Node.isShallow, isShallow, toNode, Json.members?, Json.depthOfMembers_finiteMembers]

/-- The restored nodes tell whether a payload is nested too deep. -/
theorem Payload.isShallow_iff {payload : Payload} :
    payload.isShallow = true ↔ ∀ node ∈ payload.toDocument.nodes, node.isShallow = true := by
  simp [isShallow, toDocument, NodePayload.isShallow_toNode]

end Flowchart
