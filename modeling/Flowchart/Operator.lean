import Flowchart.Json
import Flowchart.Text.Lowercase

/-! Types of properties, and the comparisons that a condition may make with each. -/

namespace Flowchart

/-- The types that properties are sorted into. -/
inductive PropertyType where
  | string
  | number
  | date
  | boolean
deriving DecidableEq, Inhabited

namespace PropertyType

/-- The name of a property type. -/
def name : PropertyType → String
  | string => "string"
  | number => "number"
  | date => "date"
  | boolean => "boolean"

/-- Every property type. -/
def all : List PropertyType := [string, number, date, boolean]

/-- The property type of a name. -/
def ofName? (name : String) : Option PropertyType := all.find? fun type => type.name == name

/-- Parts of type names that stand for each type, the types looked through in order. -/
def markers : List (PropertyType × List String) :=
  [(number, ["int", "decimal", "double", "float", "byte", "long", "short", "single", "numeric",
      "number", "money"]),
    (date, ["date", "time"]),
    (boolean, ["bool"])]

/-- The type that a name from elsewhere stands for: the first one with a marker in it, letter case
aside, and a string for want of any. -/
def ofForeign (foreign : String) : PropertyType :=
  let lowered := Text.lowercase foreign
  match markers.find? fun entry => entry.2.any fun marker => Text.contains lowered marker with
  | some entry => entry.1
  | none => string

end PropertyType

/-- A comparison offered for a type. -/
structure Operator where
  id : String
  label : String
deriving DecidableEq, Inhabited

/-- A comparison as a value. -/
def Operator.toJson (operator : Operator) : Json :=
  .obj [("id", .str operator.id), ("label", .str operator.label)]

/-- The comparisons with a property of a type, in the order in which they are offered. -/
def PropertyType.operators : PropertyType → List Operator
  | .string => [⟨"eq", "Equals"⟩, ⟨"contains", "Contains"⟩, ⟨"ne", "Not equals"⟩]
  | .number => [⟨"eq", "="⟩, ⟨"gt", ">"⟩, ⟨"lt", "<"⟩, ⟨"gte", ">="⟩]
  | .date => [⟨"eq", "On"⟩, ⟨"before", "Before"⟩, ⟨"after", "After"⟩]
  | .boolean => [⟨"true", "Is true"⟩, ⟨"false", "Is false"⟩]

/-- The comparison of a type with an id. -/
def PropertyType.operator? (type : PropertyType) (id : String) : Option Operator :=
  type.operators.find? fun operator => operator.id == id

end Flowchart
