import Flowchart.Checked
import Flowchart.Document.Saved

/-! Documents from outside, read against their shape, their edges held to the rules that
connections made by hand obey. -/

namespace Flowchart

/-- A port as it comes in. -/
structure PortPayload where
  id : String
  group : PortGroup
deriving DecidableEq, Inhabited

/-- A node as it comes in, before absent parts are filled in. -/
structure NodePayload where
  id : String
  type : String
  label : Option String
  text : Option String
  position : List (String × Float)
  width : Option Float
  height : Option Float
  ports : List PortPayload
  config : Json.Members
  style : Json.Members
deriving DecidableEq, Inhabited

/-- An edge as it comes in. -/
structure EdgePayload where
  id : String
  source : String
  sourcePort : String
  target : String
  targetPort : String
deriving DecidableEq, Inhabited

/-- A document as it comes in. -/
structure Payload where
  nodes : List NodePayload
  edges : List EdgePayload
  viewport : List (String × Float)
deriving DecidableEq, Inhabited

/-- How a document that is well shaped breaks the rules about its parts together. -/
inductive ReferenceFault where
  | duplicateNode (id : String)
  | duplicateEdge (id : String)
  | unknownNode (edge node : String)
  | unknownPort (edge node port : String)
  | leavesInput (edge node port : String)
  | entersOutput (edge node port : String)
  | duplicateConnection (edge : String)
deriving DecidableEq

/-- The wording of a broken rule. -/
def ReferenceFault.message : ReferenceFault → String
  | .duplicateNode id => "duplicate node id: " ++ id
  | .duplicateEdge id => "duplicate edge id: " ++ id
  | .unknownNode edge node => "edge " ++ edge ++ " references unknown node: " ++ node
  | .unknownPort edge node port =>
    "edge " ++ edge ++ " references unknown port: " ++ node ++ "." ++ port
  | .leavesInput edge node port =>
    "edge " ++ edge ++ " leaves an input port: " ++ node ++ "." ++ port
  | .entersOutput edge node port =>
    "edge " ++ edge ++ " enters an output port: " ++ node ++ "." ++ port
  | .duplicateConnection edge => "edge " ++ edge ++ " duplicates an existing connection"

namespace PortPayload

/-- A port that carries the name of its group. -/
def ofGroup (group : PortGroup) : PortPayload := ⟨group.name, group⟩

/-- A port from a value. -/
def shape : Shape Json PortPayload :=
  Shape.record "PortPayload" fun get =>
    Checked.build PortPayload.mk
      |> Checked.part (Shape.required Shape.text (Shape.field get "id"))
      |> Checked.part (Shape.required
          (Shape.oneOf (PortGroup.all.map fun group => (group.name, group)))
          (Shape.field get "group"))

/-- A port that came in, as a saved value. -/
def toJson (port : PortPayload) : Json := (Port.mk (.str port.id) port.group).toJson

end PortPayload

namespace NodePayload

/-- The place of a node that says nothing about it. -/
def homePosition : List (String × Float) := [("x", 0.0), ("y", 0.0)]

/-- Whether the condition of a branch, if there is one, is an object. -/
def hasConditionShape (node : NodePayload) : Bool :=
  -- Other types may keep anything under the key.
  .str node.type ≠ branchType || match node.config.getOrNull conditionKey with
    | .null | .obj _ => true
    | _ => false

/-- A node from a value. -/
def shape : Shape Json NodePayload :=
  Shape.record "NodePayload" fun get => do
    let optionalDouble (name : String) :=
      Shape.withDefault (Shape.optional Shape.double) none (Shape.field get name)
    let optionalText (name : String) :=
      Shape.withDefault (Shape.optional Shape.text) (some "") (Shape.field get name)
    let object (name : String) := Shape.withDefault Shape.object [] (Shape.field get name)
    let node ← Checked.build NodePayload.mk
      |> Checked.part (Shape.required Shape.nonemptyText (Shape.field get "id"))
      |> Checked.part (Shape.required Shape.nonemptyText (Shape.field get "type"))
      |> Checked.part (optionalText "label")
      |> Checked.part (optionalText "text")
      |> Checked.part (Shape.withDefault (Shape.objectOf Shape.double) homePosition
          (Shape.field get "position"))
      |> Checked.part (optionalDouble "width")
      |> Checked.part (optionalDouble "height")
      |> Checked.part
          (Shape.withDefault (Shape.listOf PortPayload.shape) [] (Shape.field get "ports"))
      |> Checked.part (object "config")
      |> Checked.part (object "style")
    -- The rule about the whole node is tried only when every part is well shaped.
    if node.hasConditionShape then return node
    else .fault (.rule ("node " ++ node.id ++ ": " ++ conditionKey ++ " must be an object"))

/-- How deep a value in the settings or in the style of a node may be nested. -/
def maxDepth : Nat := 255

/-- Whether no value in the settings or in the style of a node is nested too deep. -/
def isShallow (node : NodePayload) : Bool :=
  Json.depthOfMembers node.config ≤ maxDepth && Json.depthOfMembers node.style ≤ maxDepth

/-- The ports of a node, filled in when none are given. -/
def allPorts (node : NodePayload) : List PortPayload :=
  if node.ports.isEmpty then (defaultGroups (.str node.type)).map PortPayload.ofGroup
  else node.ports

/-- The group of a port id. Of several ports with the id the last one counts. -/
def group? (node : NodePayload) (port : String) : Option PortGroup :=
  (node.allPorts.reverse.find? fun candidate => candidate.id == port).map PortPayload.group

end NodePayload

namespace EdgePayload

/-- An edge from a value. Each of its ports has a short and a long name. -/
def shape : Shape Json EdgePayload :=
  Shape.record "EdgePayload" fun get =>
    Checked.build EdgePayload.mk
      |> Checked.part (Shape.required Shape.nonemptyText (Shape.field get "id"))
      |> Checked.part (Shape.required Shape.text (Shape.field get "source"))
      |> Checked.part
          (Shape.required Shape.text (Shape.either get "sourcePort" "source_port"))
      |> Checked.part (Shape.required Shape.text (Shape.field get "target"))
      |> Checked.part
          (Shape.required Shape.text (Shape.either get "targetPort" "target_port"))

/-- The two ends of an edge, its identity as a connection. -/
def ends (edge : EdgePayload) : String × String × String × String :=
  (edge.source, edge.sourcePort, edge.target, edge.targetPort)

/-- An edge that came in, as a saved value. -/
def toJson (edge : EdgePayload) : Json :=
  .obj [("id", .str edge.id), ("source", .str edge.source), ("sourcePort", .str edge.sourcePort),
    ("target", .str edge.target), ("targetPort", .str edge.targetPort)]

end EdgePayload

namespace Payload

/-- The first id that comes a second time. -/
def duplicate? : (before ids : List String) → Option String
  | _, [] => none
  | before, id :: rest => if before.contains id then some id else duplicate? (id :: before) rest

/-- The group of one end of an edge. -/
def endGroup (nodes : List NodePayload) (edge node port : String) :
    Except ReferenceFault PortGroup :=
  match nodes.find? fun candidate => candidate.id == node with
  | none => .error (.unknownNode edge node)
  | some candidate =>
    match candidate.group? port with
    | none => .error (.unknownPort edge node port)
    | some group => .ok group

/-- Holds one edge to the rules, given the edges before it. -/
def checkEdge (nodes : List NodePayload) (before : List EdgePayload)
    (edge : EdgePayload) :
    Except ReferenceFault Unit := do
  -- Ids are looked at before the ends, and the ends before the pair of them.
  if before.any fun earlier => earlier.id == edge.id then
    throw (.duplicateEdge edge.id)
  let source ← endGroup nodes edge.id edge.source edge.sourcePort
  let target ← endGroup nodes edge.id edge.target edge.targetPort
  if source = .input then
    throw (.leavesInput edge.id edge.source edge.sourcePort)
  if target ≠ .input then
    throw (.entersOutput edge.id edge.target edge.targetPort)
  if before.any fun earlier => earlier.ends == edge.ends then
    throw (.duplicateConnection edge.id)

/-- Holds a list of edges to the rules, given the edges before them. -/
def checkEdges (nodes : List NodePayload) : (before edges : List EdgePayload) →
    Except ReferenceFault Unit
  | _, [] => .ok ()
  | before, edge :: rest =>
    match checkEdge nodes before edge with
    | .ok () => checkEdges nodes (before ++ [edge]) rest
    | .error fault => .error fault

/-- Holds a document to the rules; the first one broken is told. -/
def checkReferences (payload : Payload) : Except ReferenceFault Unit :=
  -- Edges can be judged only once every node has an id of its own.
  match duplicate? [] (payload.nodes.map NodePayload.id) with
  | some id => .error (.duplicateNode id)
  | none => checkEdges payload.nodes [] payload.edges

/-- The view of a document that says nothing about it. -/
def homeViewport : List (String × Float) := [("x", 0.0), ("y", 0.0), ("zoom", 1.0)]

/-- The name under which issues speak of a document. -/
def recordName : String := "GraphPayload"

/-- A document from a value. -/
def shape : Shape Json Payload :=
  Shape.record recordName fun get => do
    let payload ← Checked.build Payload.mk
      |> Checked.part
          (Shape.required (Shape.listOf NodePayload.shape) (Shape.field get "nodes"))
      |> Checked.part
          (Shape.withDefault (Shape.listOf EdgePayload.shape) [] (Shape.field get "edges"))
      |> Checked.part (Shape.withDefault (Shape.objectOf Shape.double) homeViewport
          (Shape.field get "viewport"))
    -- The rules are tried only when every part is well shaped.
    match payload.checkReferences with
    | .ok () => return payload
    | .error fault => .fault (.rule fault.message)

/-- Named doubles as a value. -/
def doublesToJson (doubles : List (String × Float)) : Json :=
  .obj (doubles.map fun member => (member.1, .float member.2))

/-- A double or null. -/
def doubleOrNull : Option Float → Json
  | some x => .float x
  | none => .null

/-- A node that came in, as a saved value. Numbers in its settings and style that are not finite
become null. -/
def nodeToJson (node : NodePayload) : Json :=
  .obj [("id", .str node.id), ("type", .str node.type), ("label", .ofText? node.label),
    ("text", .ofText? node.text), ("position", doublesToJson node.position),
    ("width", doubleOrNull node.width), ("height", doubleOrNull node.height),
    ("ports", .arr (node.ports.map PortPayload.toJson)),
    ("config", .obj (Json.finiteMembers node.config)),
    ("style", .obj (Json.finiteMembers node.style))]

/-- What a document that came in stands for, as a saved value. -/
def toJson (payload : Payload) : Json :=
  .obj [("nodes", .arr (payload.nodes.map nodeToJson)),
    ("edges", .arr (payload.edges.map EdgePayload.toJson)),
    ("viewport", doublesToJson payload.viewport)]

/-- Whether no node holds a value that is nested too deep. -/
def isShallow (payload : Payload) : Bool := payload.nodes.all NodePayload.isShallow

/-- A document that came in, as a saved value. Values that are nested too deep are not followed. -/
def written (payload : Payload) : Except Unwritable Json :=
  if payload.isShallow then .ok payload.toJson else .error .tooDeep

end Payload

end Flowchart
