import Flowchart.Document

/-! Workflow logic: what a document comes to once its layout is left out. -/

namespace Flowchart

/-- A step of a workflow with links to the steps that follow it. -/
structure LogicStep where
  id : String
  type : String
  label : Option String
  config : Json.Members
  next : Option String
  nextTrue : Option String
  nextFalse : Option String
deriving DecidableEq, Inhabited

/-- The steps of a workflow, and the one it starts at. -/
structure Logic where
  start : Option String
  steps : List LogicStep
deriving DecidableEq, Inhabited

namespace LogicStep

/-- A member that is left out when it has no value. -/
def textMember (key : String) : Option String → Json.Members
  | some value => [(key, .str value)]
  | none => []

/-- A step as a value. Absent labels and links are left out; nulls in the settings stay. -/
def toJson (step : LogicStep) : Json :=
  .obj ([("id", .str step.id), ("type", .str step.type)] ++ textMember "label" step.label ++
    [("config", .obj step.config)] ++ textMember "next" step.next ++
    textMember "nextTrue" step.nextTrue ++ textMember "nextFalse" step.nextFalse)

/-- A step from the values under its names, the shape of its settings given. Each link of a branch
has a short and a long name. -/
def ofFields (settings : Shape Json Json.Members) (get : String → Option Json) :
    Checked LogicStep :=
  let optionalText := Shape.withDefault (Shape.optional Shape.text) none
  Checked.build LogicStep.mk
    |> Checked.part (Shape.required Shape.text (Shape.field get "id"))
    |> Checked.part (Shape.required Shape.text (Shape.field get "type"))
    |> Checked.part (optionalText (Shape.field get "label"))
    |> Checked.part (Shape.withDefault settings [] (Shape.field get "config"))
    |> Checked.part (optionalText (Shape.field get "next"))
    |> Checked.part (optionalText (Shape.either get "nextTrue" "next_true"))
    |> Checked.part (optionalText (Shape.either get "nextFalse" "next_false"))

/-- A step from a value. -/
def shape : Shape Json LogicStep := Shape.record "WorkflowNode" (ofFields Shape.object)

end LogicStep

namespace Logic

/-- Logic as a value. The start is there even when it is null. -/
def toJson (logic : Logic) : Json :=
  .obj [("startNodeId", .ofText? logic.start), ("nodes", .arr (logic.steps.map LogicStep.toJson))]

/-- Logic from a value. -/
def shape : Shape Json Logic :=
  Shape.record "WorkflowDefinition" fun get =>
    Checked.build Logic.mk
      |> Checked.part (Shape.withDefault (Shape.optional Shape.text) none
          (Shape.either get "startNodeId" "start_node_id"))
      |> Checked.part
          (Shape.withDefault (Shape.listOf LogicStep.shape) [] (Shape.field get "nodes"))

/-- The first step with an id. -/
def step? (logic : Logic) (id : String) : Option LogicStep :=
  logic.steps.find? fun step => step.id == id

end Logic

namespace Document

/-- Where the first edge leads that leaves a node through a port of a group. -/
def firstTarget? (document : Document) (node : Node) (group : PortGroup) : Option Json :=
  -- Edges are taken in document order, so the first one drawn wins.
  ((document.outgoing node.id).find? fun edge => document.group? edge == some group).map
    Edge.target

/-- The settings and links of the step a node comes to. A branch keeps its condition and has a link
per outcome; any other node keeps its settings and has one link. -/
def stepLinks (document : Document) (node : Node) : Except DocumentFault Json.Members :=
  let link (group : PortGroup) : Json := (document.firstTarget? node group).getD .null
  if node.isBranch then do
    let condition ← node.condition?
    return [("config", .obj (condition.getD [])), ("next_true", link .trueOutput),
      ("next_false", link .falseOutput)]
  else .ok [("config", node.config), ("next", link .output)]

/-- The shape of the settings of a step: an object, all keys of which were given as texts. -/
def settingsShape (oddSteps : List PathStep) : Shape Json Json.Members := fun value =>
  if oddSteps.isEmpty then Shape.object value
  else .error (oddSteps.map fun step => ⟨[step, .key Shape.keyMark], .notText⟩)

/-- The step a node comes to. What a step needs as text has to be one. -/
def compileNode (document : Document) (node : Node) : Except DocumentFault LogicStep := do
  -- The empty label counts as none.
  let label := if node.label.isTruthy then node.label else .null
  let links ← document.stepLinks node
  let members := [("id", node.id), ("type", node.type), ("label", label)] ++ links
  -- Only a branch has the condition itself for its settings.
  let settings := settingsShape (if node.isBranch then node.oddSteps else [])
  (LogicStep.ofFields settings (Json.Members.get? members)).mapError .invalid

/-- The logic of a document, complete or not. It starts at the first node no edge points at. -/
def compile (document : Document) : Except DocumentFault Logic := do
  let steps ← document.nodes.mapM document.compileNode
  -- Every step has a text for its id, so only a target can keep the roots from being found.
  let start := (← document.roots).head?.bind fun node => node.id.text?
  return { start, steps }

end Document

end Flowchart
