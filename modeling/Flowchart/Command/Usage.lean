import Flowchart.Files
import Flowchart.Text.Quoted

/-! Words on a command line that cannot be understood. -/

namespace Flowchart

/-- Why the words of a command line cannot be understood. A hint is what stands for a switch or a
word in the description of a command. -/
inductive UsageError where
  /-- No switch has the name; the ones given have similar names. -/
  | unknownSwitch (name : String) (similar : List String)
  | needsValue (name : String)
  | takesNoValue (name : String)
  /-- A word is missing; when it is a choice, these are the choices. -/
  | missingWord (hint : String) (choices : List String)
  | missingSwitch (hint : String)
  /-- A path leads nowhere. -/
  | noSuchPath (hint path : String)
  /-- A path holds the null character, which no path may hold. -/
  | nullInPath
  | notChoice (hint value : String) (choices : List String)
  | extraWords (words : List String)
  /-- No command has the name; the ones given have similar names. -/
  | unknownCommand (name : String) (similar : List String)
  | missingCommand
deriving DecidableEq

namespace UsageError

/-- The names that might have been meant, in alphabetical order. -/
def suggestion (similar : List String) : String :=
  match (similar.mergeSort fun a b => a ≤ b).map Text.quoted with
  | [] => ""
  | [only] => " Did you mean " ++ only ++ "?"
  | several => " (Did you mean one of: " ++ String.intercalate ", " several ++ "?)"

/-- The wording for a name that nothing has. -/
def unknown (what name : String) (similar : List String) : String :=
  "No such " ++ what ++ " " ++ Text.quoted name ++ "." ++ suggestion similar

/-- The choices for a missing word, one to a line. -/
def choiceLines (choices : List String) : String :=
  if choices.isEmpty then ""
  else " Choose from:\n\t" ++ String.intercalate ",\n\t" choices

/-- The wording of a value that is refused. -/
def invalidValue (hint reason : String) : String :=
  "Invalid value for " ++ hint ++ ": " ++ reason ++ "."

/-- The wording of an error. -/
def message : UsageError → String
  | unknownSwitch name similar => unknown "option" name similar
  | needsValue name => "Option " ++ Text.quoted name ++ " requires an argument."
  | takesNoValue name => "Option " ++ Text.quoted name ++ " does not take a value."
  | missingWord hint choices => "Missing argument " ++ hint ++ "." ++ choiceLines choices
  | missingSwitch hint => "Missing option " ++ hint ++ "."
  | noSuchPath hint path => invalidValue hint ("Path " ++ Text.quoted path ++ " does not exist")
  | nullInPath => FileFault.holdsNull.message
  | notChoice hint value choices =>
    invalidValue hint (Text.quoted value ++ " is not one of " ++
      String.intercalate ", " (choices.map Text.quoted))
  | extraWords words =>
    (if words.length = 1 then "Got unexpected extra argument ("
      else "Got unexpected extra arguments (") ++ String.intercalate " " words ++ ")"
  | unknownCommand name similar => unknown "command" name similar
  | missingCommand => "Missing command."

end UsageError

end Flowchart
