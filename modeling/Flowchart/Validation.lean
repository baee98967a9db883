import Flowchart.Document
import Flowchart.Property
import Flowchart.Schema

/-! Whether a document is complete: conditions are set, required fields are filled in, and, if asked
for, there is a single start. -/

namespace Flowchart

/-- What a document lacks. -/
inductive Lack where
  /-- A branch has no condition. -/
  | condition
  /-- The condition compares a property, shown by its label, with nothing. -/
  | comparedValue (label : String)
  /-- A required field, shown by its label, is blank. -/
  | fieldValue (label : String)
  /-- Every node has an edge into it. -/
  | start
  /-- So many nodes have no edge into them. -/
  | singleStart (count : Nat)
deriving DecidableEq

/-- The wording of a lack. -/
def Lack.message : Lack → String
  | .condition => "Configure the IF rule."
  | .comparedValue label => "Enter a value to compare \"" ++ label ++ "\" against."
  | .fieldValue label => "Field \"" ++ label ++ "\" is required."
  | .start => "The flow has no starting step."
  | .singleStart count =>
    "The flow has " ++ toString count ++ " starting steps; connect them into one."

/-- A lack, and the node it is about. -/
structure Finding where
  node : Option Json
  lack : Lack
deriving DecidableEq

/-- Null, the empty text and the empty list are blank. -/
def isBlank : Json → Bool
  | .null => true
  | .str text => text = ""
  | .arr items => items.isEmpty
  | _ => false

/-- What a condition lacks. With a boolean property the comparison needs no value. -/
def conditionLack? (condition : Json.Members) (properties : List Property) : Option Lack :=
  let propertyId := condition.getOrNull "propertyId"
  -- A condition without a property or a comparison is not set at all.
  if !propertyId.isTruthy || !(condition.getOrNull "operator").isTruthy then some .condition
  else match propertyId.text?.bind (Property.find? properties) with
    | some property =>
      if property.type ≠ .boolean ∧ (condition.getOrNull "value").isUnset then
        some (.comparedValue property.label)
      else none
    | none => none

/-- The first field of a list that settings leave blank. -/
def fieldLack? (settings : Json.Members) (required : List Field) : Option Lack :=
  (required.find? fun field => isBlank (settings.getOrNull field.key)).map fun field =>
    .fieldValue field.displayLabel

namespace Node

/-- What the condition of a branch lacks. -/
def conditionLack? (node : Node) (properties : List Property) :
    Except DocumentFault (Option Lack) := do
  let condition ← node.condition?
  return Flowchart.conditionLack? (condition.getD []) properties

/-- The first required field of a node that is blank. -/
def fieldLack? (node : Node) (schemas : List Schema) : Except DocumentFault (Option Lack) :=
  match schemaOf? schemas node.type with
  | none => .ok none
  | some schema =>
    -- The settings are looked into only if a field is required.
    match schema.requiredFields with
    | [] => .ok none
    | required => do
      let settings ← node.settings
      return Flowchart.fieldLack? settings required

/-- What a node lacks. Nodes of the start type need nothing. -/
def lack? (node : Node) (schemas : List Schema) (properties : List Property) (startType : Json) :
    Except DocumentFault (Option Lack) :=
  if node.type.equals startType then .ok none
  else if node.isBranch then node.conditionLack? properties
  else node.fieldLack? schemas

end Node

namespace Document

/-- What keeps a document from having a single start. A document without nodes needs none. -/
def startFinding? (document : Document) : Except DocumentFault (Option Finding) :=
  if document.nodes.isEmpty then .ok none
  else do
    match ← document.roots with
    | [] => return some ⟨none, .start⟩
    | [_] => return none
    | first :: second :: rest =>
      return some ⟨some second.id, .singleStart (first :: second :: rest).length⟩

/-- The first thing that a list of nodes lacks. -/
def nodeFinding? (schemas : List Schema) (properties : List Property) (startType : Json) :
    List Node → Except DocumentFault (Option Finding)
  | [] => .ok none
  | node :: rest => do
    match ← node.lack? schemas properties startType with
    | some lack => return some ⟨some node.id, lack⟩
    | none => nodeFinding? schemas properties startType rest

/-- The first thing a document lacks, nodes in document order, the start last. -/
def finding? (document : Document) (schemas : List Schema) (properties : List Property)
    (startType : Json) (singleStart : Bool) : Except DocumentFault (Option Finding) := do
  -- The start is looked at only when no node lacks anything.
  match ← nodeFinding? schemas properties startType document.nodes with
  | some finding => return some finding
  | none => if singleStart then document.startFinding? else return none

end Document

end Flowchart
