import Flowchart.Text.Quoted

/-! Levels of the log, by name. -/

namespace Flowchart

/-- The levels of the log, least severe first. -/
inductive LogLevel where
  | notSet
  | debug
  | info
  | warning
  | error
  | critical
deriving DecidableEq

namespace LogLevel

/-- The severity of a level as a number. -/
def severity : LogLevel → Nat
  | notSet => 0
  | debug => 10
  | info => 20
  | warning => 30
  | error => 40
  | critical => 50

/-- Why a name stands for no level. -/
inductive Fault where
  /-- Nothing about the log has the name. -/
  | unknown
  /-- The name is that of a text, which is no level either. -/
  | text (content : String)
  /-- The name is that of something else. -/
  | other
deriving DecidableEq

/-- The wording of a fault. -/
def Fault.message : Fault → String
  | unknown => "Unknown level"
  | text content => "Unknown level: " ++ Text.quoted content
  | other => "Not a level"

/-- The names of the levels in upper case. Two of the levels have a second name. -/
def names : List (String × LogLevel) :=
  [("NOTSET", notSet), ("DEBUG", debug), ("INFO", info), ("WARNING", warning), ("WARN", warning),
    ("ERROR", error), ("CRITICAL", critical), ("FATAL", critical)]

/-- The other names in upper case, which stand for the layout of the log and not for a level. -/
def otherNames : List (String × Fault) :=
  [("BASIC_FORMAT", .text "%(levelname)s:%(name)s:%(message)s"), ("_STYLES", .other)]

/-- The upper case of a letter of ASCII. Four more letters have one in ASCII: the dotless i, the
long s, and the two ligatures of s and t. -/
def upperLetter (c : Char) : List Char :=
  if c = '\u0131' then ['I']
  else if c = '\u017F' then ['S']
  else if c = '\uFB05' ∨ c = '\uFB06' then ['S', 'T']
  else [c.toUpper]

/-- The level of a name, letter case aside. -/
def ofName (name : String) : Except Fault LogLevel :=
  let upper := String.ofList (name.toList.flatMap upperLetter)
  match names.find? fun entry => entry.1 == upper with
  | some (_, level) => .ok level
  | none =>
    match otherNames.find? fun entry => entry.1 == upper with
    | some (_, fault) => .error fault
    | none => .error .unknown

end LogLevel

end Flowchart
