import Flowchart.Connection
import Flowchart.Document.Saved
import Flowchart.Settings
import Flowchart.Supply

/-! Changes to a document. A change that fails has no document to give, so the one before it
stands. -/

namespace Flowchart

/-- The look of branching nodes. -/
def branchStyle : Json.Members :=
  [("fill", .str "#fffbe6"), ("stroke", .str "#faad14"), ("strokeWidth", .int 2), ("rx", .int 6),
    ("ry", .int 6)]

/-- The look of all other nodes. -/
def stepStyle : Json.Members :=
  [("fill", .str "#ffffff"), ("stroke", .str "#ccc"), ("strokeWidth", .int 2),
    ("strokeDasharray", .str "5,5"), ("rx", .int 6), ("ry", .int 6)]

namespace Node

/-- A fresh node at a point. Its text is the label, or else its type; a branch is called `IF` and
carries no label. -/
def fresh (settings : Settings) (id type label : Json) (x y : Float) : Node :=
  let branches := type = branchType
  -- The empty label counts as none.
  let text := if label.isTruthy then label else if branches then .str "IF" else type
  { id, type, text
    label := if branches then .str "" else text
    position := [("x", .float x), ("y", .float y)]
    width := .float settings.nodeWidth
    height := .float settings.nodeHeight
    ports := defaultPorts type
    config := .obj []
    style := if branches then branchStyle else stepStyle }

/-- A node under another label, unless it is null. -/
def relabel (node : Node) : Json → Node
  | .null => node
  | label => { node with label, text := label }

/-- Merges settings into a node, member by member, and relabels it if a label is given. -/
def update (node : Node) (patch label : Json) : Except DocumentFault Node :=
  match node.config, patch with
  | .obj settings, .obj patch =>
    -- A condition that is put in the place of the old one has texts for its keys.
    let oddSteps := if Json.Members.contains patch conditionKey then [] else node.oddSteps
    let config := .obj (Json.Members.merge settings patch)
    .ok ({ node with config, oddSteps }.relabel label)
  -- Only objects can be merged.
  | _, _ => .error .wrongKind

/-- Stores the condition of a node with the text that shows it. -/
def withCondition (node : Node) (condition text : Json) : Except DocumentFault Node :=
  match node.config with
  | .obj settings => do
    let pairs ← condition.dictionaryPairs.mapError .ofPairs
    let members := pairs.map fun pair => (pair.1.keyText, pair.2)
    let settings := Json.Members.set settings conditionKey (.obj members)
    let oddSteps := pairs.filterMap fun pair => pair.1.oddStep?
    return { node with config := .obj settings, text, oddSteps }
  | _ => .error .wrongKind

end Node

/-- One coordinate of a node whose middle is dropped at a point. -/
def dropCoordinate (position : Json) (axis : String) (size : Float) :
    Except DocumentFault Float := do
  match (← Saved.member position axis).number? with
  | none => .error .wrongKind
  | some number =>
    -- The point is the middle, so the corner lies half a size before it.
    match number.toFloat with
    | .ok x => return x - size / 2.0
    | .error _ => .error .tooLarge

/-- Where a node goes whose middle is dropped at a point. -/
def dropPoint (settings : Settings) (position : Json) :
    Except DocumentFault (Float × Float) := do
  let x ← dropCoordinate position "x" settings.nodeWidth
  let y ← dropCoordinate position "y" settings.nodeHeight
  return (x, y)

/-- A random point of the canvas, and the supply after the two numbers it takes. -/
def randomPoint (settings : Settings) (supply : Supply) : (Float × Float) × Supply :=
  -- The first number drawn is for the horizontal axis.
  let (u, supply) := supply.drawRandom
  let (v, supply) := supply.drawRandom
  ((settings.randomOrigin + u * settings.randomSpread,
    settings.randomOrigin + v * settings.randomSpread), supply)

namespace Document

/-- Adds a node after all others. -/
def addNode (document : Document) (node : Node) : Document :=
  { document with nodes := document.nodes ++ [node] }

/-- Puts a node in the place of the first one with an id. -/
def replaceFirst (id : Json) (changed : Node) : List Node → List Node
  | [] => []
  | node :: rest =>
    if node.id.equals id then changed :: rest else node :: replaceFirst id changed rest

/-- Changes the first node with an id. -/
def modify (document : Document) (id : Json) (change : Node → Except DocumentFault Node) :
    Except DocumentFault (Document × Node) :=
  -- The lookup and the change both go to the first node with the id.
  match document.node? id with
  | none => .error (.unknownNode id)
  | some node => do
    let changed ← change node
    return ({ document with nodes := replaceFirst id changed document.nodes }, changed)

/-- Merges settings into a node, and relabels it if a label is given. -/
def updateNode (document : Document) (id patch label : Json) :
    Except DocumentFault (Document × Node) :=
  document.modify id fun node => node.update patch label

/-- Stores the condition of a node with the text that shows it. -/
def setCondition (document : Document) (id condition text : Json) :
    Except DocumentFault (Document × Node) :=
  document.modify id fun node => node.withCondition condition text

/-- Giving a node a type fails: for want of the node, or because types are fixed. -/
def setType (document : Document) (id _type : Json) : Except DocumentFault Document :=
  match document.node? id with
  | none => .error (.unknownNode id)
  | some _ => .error .typeIsFixed

/-- Removes the nodes with an id and every edge at them. -/
def removeNode (document : Document) (id : Json) : Document :=
  { document with
    -- No edge is left that leads to or from the node.
    nodes := document.nodes.filter fun node => !node.id.equals id
    edges := document.edges.filter fun edge =>
      !edge.source.equals id && !edge.target.equals id }

/-- Removes the edges with an id. -/
def removeEdge (document : Document) (id : Json) : Document :=
  { document with edges := document.edges.filter fun edge => !edge.id.equals id }

/-- The connection proposed between two ports named by their ids. -/
def propose (document : Document) (source sourcePort target targetPort : Json) : Proposal :=
  { source, target
    sourcePort := document.port? source sourcePort
    targetPort := document.port? target targetPort }

/-- Makes a connection under the given id if the rules allow it. -/
def connect (document : Document) (allowSelfLoops : Bool)
    (id source sourcePort target targetPort : Json) : Option (Document × Edge) :=
  let proposal := document.propose source sourcePort target targetPort
  -- A forbidden connection takes neither a place nor an id.
  if proposal.isAllowed document.edges allowSelfLoops then
    let edge := Edge.mk id source sourcePort target targetPort
    some ({ document with edges := document.edges ++ [edge] }, edge)
  else none

/-- Removes every node and edge; the view stays. -/
def clear (document : Document) : Document := { document with nodes := [], edges := [] }

end Document

end Flowchart
