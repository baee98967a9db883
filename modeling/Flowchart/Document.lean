import Flowchart.Pairs
import Flowchart.Port

/-! Flow documents: nodes on a canvas and the edges between their ports. Ids, types and texts are
kept as they were given, so that a document that nobody checked can be held, too. -/

namespace Flowchart

/-- A step placed on the canvas. Its settings are an object unless they were given otherwise. -/
structure Node where
  id : Json
  type : Json
  label : Json
  text : Json
  position : Json.Members
  width : Json
  height : Json
  ports : List Port
  config : Json
  style : Json.Members
  /-- The steps to those members of the condition whose keys are no texts. -/
  oddSteps : List PathStep := []
deriving DecidableEq, Inhabited

/-- A directed link from a port of one node to a port of another. -/
structure Edge where
  id : Json
  source : Json
  sourcePort : Json
  target : Json
  targetPort : Json
deriving DecidableEq, Inhabited

/-- Why something cannot be done with a document. -/
inductive DocumentFault where
  /-- A member is missing. -/
  | missing (key : String)
  /-- No node has the id. -/
  | unknownNode (id : Json)
  /-- A port has a group that there is not. -/
  | unknownGroup (group : Json)
  /-- A value is of the wrong kind for what is done with it. -/
  | wrongKind
  /-- A value that is no object is asked for a member. -/
  | noMembers
  /-- An entry of a list of pairs has another length than two. -/
  | notPair (position length : Nat)
  /-- A number is beyond the largest double. -/
  | tooLarge
  /-- The type of a node never changes. -/
  | typeIsFixed
  /-- A part of a step has no place in the logic of a workflow. -/
  | invalid (issues : List Issue)
  /-- A text cannot be made of a value. -/
  | unwritable (reason : Unwritable)
deriving DecidableEq

/-- The fault of a value that is no list of pairs. -/
def DocumentFault.ofPairs : PairsFault → DocumentFault
  | .wrongKind => .wrongKind
  | .notPair position length => .notPair position length

/-- The member of a node's settings that holds the condition of a branch. -/
def conditionKey : String := "conditionData"

namespace Node

/-- Whether the node branches on a condition. -/
def isBranch (node : Node) : Bool := node.type = branchType

/-- The settings of a node as an object. -/
def settings (node : Node) : Except DocumentFault Json.Members :=
  match node.config with
  | .obj members => .ok members
  | _ => .error .noMembers

/-- The stored condition; anything but an object counts as none. -/
def condition? (node : Node) : Except DocumentFault (Option Json.Members) :=
  node.settings.map fun settings => (settings.getOrNull conditionKey).members?

/-- The first port with an id. -/
def port? (node : Node) (id : Json) : Option Port := node.ports.find? fun port => port.id.equals id

end Node

namespace Edge

/-- The two ends of an edge, its identity as a connection. -/
def ends (edge : Edge) : List Json :=
  [edge.source, edge.sourcePort, edge.target, edge.targetPort].map Json.core

end Edge

/-- Nodes and edges in the order they were added, with the part of the canvas in view. -/
structure Document where
  nodes : List Node
  edges : List Edge
  viewport : Json.Members
deriving DecidableEq, Inhabited

namespace Document

/-- The view of a fresh canvas. -/
def homeViewport : Json.Members := [("x", .int 0), ("y", .int 0), ("zoom", .int 1)]

/-- A document without nodes. -/
def empty : Document := ⟨[], [], homeViewport⟩

/-- The first node with an id. -/
def node? (document : Document) (id : Json) : Option Node :=
  document.nodes.find? fun node => node.id.equals id

/-- The first edge with an id. -/
def edge? (document : Document) (id : Json) : Option Edge :=
  document.edges.find? fun edge => edge.id.equals id

/-- A port by the ids of its node and its own. -/
def port? (document : Document) (node port : Json) : Option Port :=
  (document.node? node).bind fun node => node.port? port

/-- The group of the port an edge leaves from. -/
def group? (document : Document) (edge : Edge) : Option PortGroup :=
  (document.port? edge.source edge.sourcePort).map Port.group

/-- The edges that leave a node. -/
def outgoing (document : Document) (id : Json) : List Edge :=
  document.edges.filter fun edge => edge.source.equals id

/-- The edges that enter a node. -/
def incoming (document : Document) (id : Json) : List Edge :=
  document.edges.filter fun edge => edge.target.equals id

/-- The edges at a node, on either side. -/
def touching (document : Document) (id : Json) : List Edge :=
  document.edges.filter fun edge => edge.source.equals id || edge.target.equals id

/-- The nodes no edge points at, in document order. -/
def unaimed (document : Document) : List Node :=
  document.nodes.filter fun node => !document.edges.any fun edge => edge.target.isSame node.id

/-- The nodes no edge points at. They are looked for by their ids as keys, so that no id and no
target may be a list or an object. -/
def roots (document : Document) : Except DocumentFault (List Node) :=
  if document.edges.all (fun edge => edge.target.isFixed) &&
      document.nodes.all (fun node => node.id.isFixed) then
    .ok document.unaimed
  else .error .wrongKind

end Document

end Flowchart
