import Flowchart.Document

/-! Documents as values, and documents from values that nobody has checked. -/

namespace Flowchart

/-- The wording of an unknown group. -/
def unknownGroupMessage (group : Json) : String :=
  match group.writtenBy Json.inspect with
  | .ok shown => shown ++ " is not a valid PortGroup"
  -- Not even the message can be made then.
  | .error reason => reason.message

namespace Saved

/-- A member of an object that has to be there. -/
def member (value : Json) (key : String) : Except DocumentFault Json :=
  match value with
  | .obj members =>
    match Json.Members.get? members key with
    | some value => .ok value
    | none => .error (.missing key)
  | _ => .error .wrongKind

/-- The value itself, or the empty text for everything that counts as absent. -/
def textOrEmpty (value : Json) : Json := if value.isTruthy then value else .str ""

/-- The value itself, or an empty object for everything that counts as absent. -/
def objectOrEmpty (value : Json) : Json := if value.isTruthy then value else .obj []

/-- The members of an object or of a list of pairs, or a fallback for everything that counts as
absent. -/
def membersOr (fallback : Json.Members) (value : Json) : Except DocumentFault Json.Members :=
  if value.isTruthy then value.dictionary.mapError .ofPairs else .ok fallback

/-- What a collection holds, if it can be gone through. -/
def collection (value : Json) : Except DocumentFault (List Json) :=
  match value.items? with
  | some items => .ok items
  | none => .error .wrongKind

/-- What a collection holds; everything that counts as absent holds nothing. -/
def collectionOrEmpty (value : Json) : Except DocumentFault (List Json) :=
  if value.isTruthy then collection value else .ok []

end Saved

namespace Port

/-- A port from a saved value. -/
def ofJson (value : Json) : Except DocumentFault Port := do
  let id ← Saved.member value "id"
  let group ← Saved.member value "group"
  -- A group is known by its name only.
  match group.text?.bind PortGroup.ofName? with
  | some group => return ⟨id, group⟩
  | none => .error (.unknownGroup group)

end Port

namespace Node

/-- The place of a node that says nothing about it. -/
def homePosition : Json.Members := [("x", .int 0), ("y", .int 0)]

/-- The width of a node that says nothing about it. -/
def defaultWidth : Json := .int 160

/-- The height of a node that says nothing about it. -/
def defaultHeight : Json := .int 70

/-- The value given for a size, unless it is null. -/
def sizeOr (fallback : Json) : Json → Json
  | .null => fallback
  | value => value

/-- A node from a saved value. Only its id and type have to be there. -/
def ofJson (value : Json) : Except DocumentFault Node := do
  let id ← Saved.member value "id"
  let type ← Saved.member value "type"
  -- A value that has members is an object, so the others may be looked up.
  let members : Json.Members := value.members?.getD []
  let position ← Saved.membersOr homePosition (members.getOrNull "position")
  let label := Saved.textOrEmpty (members.getOrNull "label")
  let text := Saved.textOrEmpty (members.getOrNull "text")
  -- A size of zero is kept; only null gives way to the default.
  let width := sizeOr defaultWidth (members.getOrNull "width")
  let height := sizeOr defaultHeight (members.getOrNull "height")
  let ports ← (← Saved.collectionOrEmpty (members.getOrNull "ports")).mapM Port.ofJson
  let config := Saved.objectOrEmpty (members.getOrNull "config")
  let style ← Saved.membersOr [] (members.getOrNull "style")
  -- A node without ports of its own has those of its type.
  let ports := if ports.isEmpty then defaultPorts type else ports
  return { id, type, label, text, position, width, height, ports, config, style }

/-- A node as a saved value. -/
def toJson (node : Node) : Json :=
  .obj [("id", node.id), ("type", node.type), ("label", node.label), ("text", node.text),
    ("position", .obj node.position), ("width", node.width), ("height", node.height),
    ("ports", .arr (node.ports.map Port.toJson)), ("config", node.config),
    ("style", .obj node.style)]

end Node

namespace Edge

/-- An edge from a saved value. -/
def ofJson (value : Json) : Except DocumentFault Edge := do
  let id ← Saved.member value "id"
  let source ← Saved.member value "source"
  let sourcePort ← Saved.member value "sourcePort"
  let target ← Saved.member value "target"
  let targetPort ← Saved.member value "targetPort"
  return { id, source, sourcePort, target, targetPort }

/-- An edge as a saved value. -/
def toJson (edge : Edge) : Json :=
  .obj [("id", edge.id), ("source", edge.source), ("sourcePort", edge.sourcePort),
    ("target", edge.target), ("targetPort", edge.targetPort)]

end Edge

namespace Document

/-- A document from the members of a saved value. Edges may dangle and ids may repeat. -/
def ofMembers (members : Json.Members) : Except DocumentFault Document := do
  let nodes ← (← Saved.collection ((members.get? "nodes").getD (.arr []))).mapM Node.ofJson
  let edges ← (← Saved.collection ((members.get? "edges").getD (.arr []))).mapM Edge.ofJson
  let viewport ← Saved.membersOr homeViewport (members.getOrNull "viewport")
  return { nodes, edges, viewport }

/-- A document from a saved value. -/
def ofJson : Json → Except DocumentFault Document
  | .obj members => ofMembers members
  | _ => .error .noMembers

/-- A document as a saved value, enough to restore it. -/
def toJson (document : Document) : Json :=
  .obj [("nodes", .arr (document.nodes.map Node.toJson)),
    ("edges", .arr (document.edges.map Edge.toJson)), ("viewport", .obj document.viewport)]

end Document

end Flowchart
