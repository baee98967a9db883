import Flowchart.Payload
import Flowchart.Proofs.Document.Restored

/-! The document that a payload comes to: what is left out is filled in, and nothing else
changes. -/

namespace Flowchart

/-- A port of a payload as a port of a node. -/
def PortPayload.toPort (port : PortPayload) : Port := ⟨.str port.id, port.group⟩

/-- An edge of a payload as an edge of a document. -/
def EdgePayload.toEdge (edge : EdgePayload) : Edge :=
  ⟨.str edge.id, .str edge.source, .str edge.sourcePort, .str edge.target, .str edge.targetPort⟩

/-- Named doubles as members of an object. -/
def doubleMembers (doubles : List (String × Float)) : Json.Members :=
  doubles.map fun member => (member.1, .float member.2)

/-- Doubles that are there do not give way to a fallback. -/
theorem membersElse_doubleMembers {fallback : Json.Members} {doubles : List (String × Float)}
    (some_given : doubles ≠ []) :
    membersElse fallback (doubleMembers doubles) = doubleMembers doubles :=
  membersElse_of_ne_nil (mt List.map_eq_nil_iff.mp some_given)

/-- A node of a payload as a node of a document, absent parts filled in. -/
def NodePayload.toNode (node : NodePayload) : Node where
  id := .str node.id
  type := .str node.type
  label := .str (node.label.getD "")
  text := .str (node.text.getD "")
  position := membersElse Node.homePosition (doubleMembers node.position)
  width := (node.width.map Json.float).getD Node.defaultWidth
  height := (node.height.map Json.float).getD Node.defaultHeight
  ports := node.allPorts.map PortPayload.toPort
  config := .obj (Json.finiteMembers node.config)
  style := Json.finiteMembers node.style

/-- The document of a payload. -/
def Payload.toDocument (payload : Payload) : Document where
  nodes := payload.nodes.map NodePayload.toNode
  edges := payload.edges.map EdgePayload.toEdge
  viewport := membersElse Document.homeViewport (doubleMembers payload.viewport)

/-- A text or null is read as the text, or else as the empty one. -/
@[simp] theorem Saved.textOrEmpty_ofText? (text : Option String) :
    textOrEmpty (.ofText? text) = .str (text.getD "") := by
  -- A text that is missing and the empty one are saved alike.
  cases text with
  | none => rfl
  | some text =>
    by_cases empty : text = "" <;> simp [textOrEmpty, Json.ofText?, Json.isTruthy, empty]

/-- A double or null is read as the double, or else as the default size. -/
@[simp] theorem Node.sizeOr_doubleOrNull (fallback : Json) (size : Option Float) :
    sizeOr fallback (Payload.doubleOrNull size) = (size.map Json.float).getD fallback := by
  cases size <;> rfl

/-- A node that is written reads back with its absent parts filled in. -/
theorem NodePayload.ofJson_nodeToJson (node : NodePayload) :
    Node.ofJson (Payload.nodeToJson node) = .ok node.toNode := by
  have ports : (node.ports.map PortPayload.toJson).mapM Port.ofJson =
      .ok (node.ports.map PortPayload.toPort) :=
    mapM_map_eq_ok fun port _ => Port.ofJson_toJson port.toPort
  have filled : (if node.ports = [] then defaultPorts (.str node.type)
      else node.ports.map PortPayload.toPort) = node.allPorts.map PortPayload.toPort := by
    cases given : node.ports with
    | nil =>
      -- The ports of a type are the same on both sides.
      simp only [NodePayload.allPorts, given, defaultPorts, List.isEmpty_nil, if_true, List.map_map]
      rfl
    | cons first rest => simp [NodePayload.allPorts, given]
  simp [Node.ofJson, Payload.nodeToJson, Saved.member, Json.Members.get?, Json.Members.getOrNull,
    Json.members?, Payload.doublesToJson, ports, filled, Bind.bind, Except.bind, Pure.pure,
    Except.pure, NodePayload.toNode, doubleMembers]

/-- What a payload is written as is always restored. -/
theorem Payload.ofJson_toJson (payload : Payload) :
    Document.ofJson payload.toJson = .ok payload.toDocument := by
  -- Both collections are read entry by entry, and what was written for an entry is read as it.
  have nodes : (payload.nodes.map nodeToJson).mapM Node.ofJson =
      .ok (payload.nodes.map NodePayload.toNode) :=
    mapM_map_eq_ok fun node _ => node.ofJson_nodeToJson
  have edges : (payload.edges.map EdgePayload.toJson).mapM Edge.ofJson =
      .ok (payload.edges.map EdgePayload.toEdge) :=
    mapM_map_eq_ok fun edge _ => Edge.ofJson_toJson edge.toEdge
  simp [Document.ofJson, Document.ofMembers, Payload.toJson, Saved.collection, Json.items?,
    Json.Members.get?, Json.Members.getOrNull, doublesToJson, nodes, edges, Bind.bind,
    Except.bind, Pure.pure, Except.pure, toDocument, doubleMembers]

end Flowchart
