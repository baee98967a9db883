import Flowchart.Yaml.Moment
import Flowchart.Yaml.Tag

/-! What a plain scalar stands for: a text, unless it is spelled like another kind of value. -/

namespace Flowchart

namespace Yaml

/-- The spellings of null. -/
def nullWords : List String := ["", "~", "null", "Null", "NULL"]

/-- The spellings of true. -/
def trueWords : List String := ["yes", "Yes", "YES", "true", "True", "TRUE", "on", "On", "ON"]

/-- The spellings of false. -/
def falseWords : List String := ["no", "No", "NO", "false", "False", "FALSE", "off", "Off", "OFF"]

/-- A digit or an underscore. -/
def isSpacedDigit (c : Char) : Bool := c.isDigit || c = '_'

/-- Drops one sign. -/
def dropSign : List Char → List Char
  | '-' :: rest => rest
  | '+' :: rest => rest
  | text => text

/-- A sixtieth after its colon: one digit, or two up to fifty-nine. -/
def isSixtieth : List Char → Bool
  | [a] => a.isDigit
  | [a, b] => '0' ≤ a && a ≤ '5' && b.isDigit
  | _ => false

/-- Splits at every colon. -/
def splitColons : List Char → List (List Char)
  | [] => [[]]
  | c :: rest =>
    match splitColons rest with
    | [] => [[c]]
    | part :: parts => if c = ':' then [] :: part :: parts else (c :: part) :: parts

/-- Whether every character satisfies a test, and there is one at least. -/
def allAtLeastOne (test : Char → Bool) (text : List Char) : Bool := !text.isEmpty && text.all test

/-- Whole numbers: in base two, eight, ten and sixteen, and in sixtieths with colons. -/
def isInt (text : List Char) : Bool :=
  match dropSign text with
  | [] => false
  | '0' :: 'b' :: rest => allAtLeastOne (fun c => c = '0' || c = '1' || c = '_') rest
  | '0' :: 'x' :: rest =>
    allAtLeastOne (fun c => c.isDigit || ('a' ≤ c && c ≤ 'f') || ('A' ≤ c && c ≤ 'F') || c = '_')
      rest
  | ['0'] => true
  -- A leading zero makes the digits octal.
  | '0' :: rest => rest.all fun c => ('0' ≤ c && c ≤ '7') || c = '_'
  | first :: rest =>
    first.isDigit && match splitColons rest with
      | [] => false
      | [digits] => digits.all isSpacedDigit
      | digits :: sixtieths => digits.all isSpacedDigit && sixtieths.all isSixtieth

/-- A power of ten with its sign, or nothing. -/
def isPowerOrNone : List Char → Bool
  | [] => true
  | e :: sign :: digits =>
    (e = 'e' || e = 'E') && (sign = '-' || sign = '+') && allAtLeastOne Char.isDigit digits
  | _ => false

/-- Doubles: with a point always, in sixtieths with colons, infinite or not a number. -/
def isFloat (text : List Char) : Bool :=
  let unsigned := dropSign text
  let infinite := [".inf", ".Inf", ".INF"].contains (String.ofList unsigned)
  let undefined := [".nan", ".NaN", ".NAN"].contains (String.ofList text)
  let digits := unsigned.takeWhile isSpacedDigit
  let startsWithDigit := (digits.head?.map Char.isDigit).getD false
  let decimal := startsWithDigit && match unsigned.dropWhile isSpacedDigit with
    | '.' :: rest => isPowerOrNone (rest.dropWhile isSpacedDigit)
    | _ => false
  let fraction := match text with
    | '.' :: first :: rest =>
      first.isDigit && isPowerOrNone (rest.dropWhile isSpacedDigit)
    | _ => false
  -- Sixtieths need a point at the end, or they are whole numbers.
  let sexagesimal := startsWithDigit &&
    match (splitColons (unsigned.takeWhile (· ≠ '.'))), unsigned.dropWhile (· ≠ '.') with
    | digits :: first :: rest, '.' :: fraction =>
      digits.all isSpacedDigit && isSixtieth first && rest.all isSixtieth &&
        fraction.all isSpacedDigit
    | _, _ => false
  infinite || undefined || decimal || fraction || sexagesimal

/-- Dates, and dates with times. A date alone has two digits for its month and day. -/
def isMoment (text : List Char) : Bool :=
  match readMoment? text with
  | some (.date _) => text.length = 10
  | some (.time _) => true
  | none => false

/-- The tag of a scalar by its spelling. -/
def spelledTag (text : String) : Tag :=
  let chars := text.toList
  -- The tags are tried in order, and a text is what none of them takes.
  if nullWords.contains text then .null
  else if trueWords.contains text || falseWords.contains text then .flag
  else if isInt chars then .whole
  else if isFloat chars then .double
  else if isMoment chars then .moment
  else if text = "<<" then .merge
  else if text = "=" then .fallback
  else if ["!", "&", "*"].contains text then .other
  else .text

/-- The tag of a scalar by its spelling, whether or not a line break follows it. -/
def Tag.ofSpelling (text : String) : Tag :=
  match text.toList.reverse with
  -- A line break alone is a text.
  | ['\n'] => .text
  | '\n' :: before => spelledTag (String.ofList before.reverse)
  | _ => spelledTag text

end Yaml

end Flowchart
