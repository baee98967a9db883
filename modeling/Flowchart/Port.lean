import Flowchart.Json.Display

/-! Ports: where edges leave a node and where they enter one. -/

namespace Flowchart

/-- The part a port plays. -/
inductive PortGroup where
  | input
  | output
  | trueOutput
  | falseOutput
deriving DecidableEq, Inhabited

namespace PortGroup

/-- The name of a group in saved documents. -/
def name : PortGroup → String
  | input => "in"
  | output => "out"
  | trueOutput => "trueOut"
  | falseOutput => "falseOut"

/-- Every group, in the order in which choices are listed. -/
def all : List PortGroup := [input, output, trueOutput, falseOutput]

/-- The group of a name. -/
def ofName? (name : String) : Option PortGroup := all.find? fun group => group.name == name

end PortGroup

/-- A connection point of a node. Its id is a text unless a document that nobody checked says
otherwise. -/
structure Port where
  id : Json
  group : PortGroup
deriving DecidableEq, Inhabited

namespace Port

/-- A port as a saved value. -/
def toJson (port : Port) : Json := .obj [("id", port.id), ("group", .str port.group.name)]

/-- A port that carries the name of its group. -/
def ofGroup (group : PortGroup) : Port := ⟨.str group.name, group⟩

end Port

/-- The type of nodes that branch on a condition. -/
def branchType : Json := .str "if"

/-- The groups of the ports of a fresh node: one way in, and one way out per outcome. -/
def defaultGroups (type : Json) : List PortGroup :=
  if type = branchType then [.input, .trueOutput, .falseOutput] else [.input, .output]

/-- The ports of a fresh node. -/
def defaultPorts (type : Json) : List Port := (defaultGroups type).map Port.ofGroup

end Flowchart
