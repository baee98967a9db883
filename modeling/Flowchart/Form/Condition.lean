import Flowchart.Document.Edit
import Flowchart.Json.Display
import Flowchart.Property

/-! The form that edits the condition of a branch: a property, a comparison offered for its type,
and a value to compare with. -/

namespace Flowchart

/-- A condition being edited. -/
structure ConditionForm where
  node : Json
  /-- The properties that can be chosen. -/
  properties : List Property
  selected : Option Property
  /-- The comparisons offered. -/
  operators : List Operator
  /-- The comparison chosen, the empty text for none. -/
  operator : Json
  value : Json
deriving DecidableEq

namespace ConditionForm

/-- A form in which nothing is chosen. -/
def blank (node : Json) (properties : List Property) : ConditionForm :=
  ⟨node, properties, none, [], .str "", .str ""⟩

/-- Chooses a property by its id. The comparison and the value are cleared. -/
def selectProperty (form : ConditionForm) (id : Json) : ConditionForm :=
  -- Comparisons of one type make no sense for another, so nothing is carried over.
  let selected := id.text?.bind (Property.find? form.properties)
  { form with
    selected
    operators := (selected.map fun property => property.type.operators).getD []
    operator := .str ""
    value := .str "" }

/-- Opens the form on a node. A stored condition is shown if its property can be chosen. -/
def ofNode (node : Node) (properties : List Property) : ConditionForm :=
  let form := blank node.id properties
  match node.condition? with
  | .ok (some (first :: rest)) =>
    let condition : Json.Members := first :: rest
    let form := form.selectProperty (condition.getOrNull "propertyId")
    -- A property that is gone takes its comparison and value with it.
    if form.selected.isNone then form
    else
      let operator := condition.getOrNull "operator"
      { form with
        operator := if operator.isTruthy then operator else .str ""
        value := (condition.get? "value").getD (.str "") }
  -- An empty condition shows nothing, as if there were none.
  | _ => form

/-- The comparison chosen, if it is one for the type of the property. -/
def chosenOperator? (form : ConditionForm) : Option Operator :=
  form.selected.bind fun property => form.operator.text?.bind property.type.operator?

/-- The comparison as it is shown. One that is not offered is shown as it is stored. -/
def comparison (form : ConditionForm) : Except Unwritable String :=
  match form.chosenOperator? with
  | some operator => .ok operator.label
  | none => form.operator.display

/-- The text shown on the node: the label of the property, and below it the comparison with the
value. Boolean properties are compared with nothing. -/
def summary (form : ConditionForm) : Except Unwritable String := do
  let comparison ← form.comparison
  match form.selected with
  | none => return "\n" ++ comparison
  | some property =>
    let shown := property.label ++ "\n" ++ comparison
    if property.type = .boolean then return shown
    else return shown ++ " " ++ (← form.value.display)

/-- The condition as it is stored, once a property and a comparison are chosen. -/
def condition? (form : ConditionForm) : Option Json.Members :=
  match form.selected with
  | some property =>
    if form.operator.isTruthy then
      some [("propertyId", .str property.id), ("operator", form.operator), ("value", form.value)]
    else none
  | none => none

/-- Stores the condition in the node, and tells whether it did; an incomplete one is not stored. One
that cannot be shown is a fault. -/
def save (form : ConditionForm) (document : Document) : Except DocumentFault (Document × Bool) :=
  match form.condition? with
  | none => .ok (document, false)
  | some condition => do
    -- The text is made before the node is looked for.
    let text ← form.summary.mapError .unwritable
    let (document, _) ← document.setCondition form.node (.obj condition) (.str text)
    return (document, true)

end ConditionForm

end Flowchart
