import Flowchart.Json
import Flowchart.Text.Quoted

/-! Values shown to people: texts bare, everything inside lists and objects quoted. -/

namespace Flowchart

namespace Json

/-- How doubles are spelled when shown. -/
def displaySpelling : Decimal.Spelling := ⟨"nan", "inf", false⟩

mutual

/-- A value as shown inside a list or an object. -/
def inspect : Json → String
  | .null => "None"
  | .bool true => "True"
  | .bool false => "False"
  | .num value => value.render displaySpelling
  | .str text => Text.quoted text
  | .arr items => "[" ++ inspectItems items ++ "]"
  | .obj members => "\x7b" ++ inspectMembers members ++ "\x7d"

/-- The items of a list, with commas between them. -/
def inspectItems : List Json → String
  | [] => ""
  | [item] => inspect item
  | item :: rest => inspect item ++ ", " ++ inspectItems rest

/-- The members of an object, with commas between them. -/
def inspectMembers : List (String × Json) → String
  | [] => ""
  | [(key, value)] => Text.quoted key ++ ": " ++ inspect value
  | (key, value) :: rest =>
    Text.quoted key ++ ": " ++ inspect value ++ ", " ++ inspectMembers rest

end

/-- The text of a value on its own: a text is shown without quotes. -/
def bare : Json → String
  | .str text => text
  | value => inspect value

/-- A value as it is shown on its own, if all of its numbers can be written. -/
def display (value : Json) : Except Unwritable String := value.writtenBy bare

end Json

end Flowchart
