import Flowchart.Json.Reader
import Flowchart.Text.Blank
import Flowchart.Text.Digits
import Flowchart.Text.Lowercase
import Flowchart.Text.Quoted
import Flowchart.Yaml.Scalar

/-! The numbers that scalars spell: with underscores between digits, in several bases, and in
sixtieths. The digits may be of any script. -/

namespace Flowchart

namespace Yaml

/-- Why a text spells no number. -/
inductive NumeralFault where
  | empty
  | notWhole (base : Nat) (text : String)
  | tooManyDigits (digits : Nat)
  | notDouble (text : String)
  /-- A sixtieth is beyond the largest double. -/
  | tooLarge
deriving DecidableEq

/-- The most characters of a text that are shown when it is no whole number. -/
def shownLength : Nat := 200

/-- The wording of a fault. -/
def NumeralFault.message : NumeralFault → String
  | .empty => "string index out of range"
  | .notWhole base text =>
    let shown := String.ofList ((Text.quoted text).toList.take shownLength)
    "invalid literal for int() with base " ++ toString base ++ ": " ++ shown
  | .tooManyDigits digits => (Json.ReadError.tooManyDigits digits).message
  | .notDouble text => "could not convert string to float: " ++ Text.quoted text
  | .tooLarge => Number.Fault.tooLarge.message

namespace Numeral

/-- The value of a digit in a base. -/
def digit? (base : Nat) (c : Char) : Option Nat :=
  if c.isDigit then
    let value := c.toNat - '0'.toNat
    if value < base then some value else none
  else (Json.hexValue? c).filter (· < base)

/-- The letter that may stand behind a zero in front of the digits of a base. -/
def baseLetter? : Nat → Option Char
  | 2 => some 'b'
  | 8 => some 'o'
  | 16 => some 'x'
  | _ => none

/-- Drops a zero and the letter of the base. -/
def dropBase (base : Nat) : List Char → List Char
  | '0' :: letter :: rest =>
    if some letter.toLower = baseLetter? base then rest else '0' :: letter :: rest
  | text => text

/-- The whole number of a text in a base, with blanks around it and a sign. -/
def whole (base : Nat) (text : List Char) : Except NumeralFault Int :=
  let (negative, body) := Decimal.splitSign ((Text.trimBlanks text).map Digits.plain)
  let body := dropBase base body
  let digits := body.takeWhile fun c => (digit? base c).isSome
  -- Only the digits of base ten are counted, whatever follows them.
  if base = 10 ∧ Json.maxDigits < digits.length then .error (.tooManyDigits digits.length)
  else if digits.isEmpty ∨ digits.length ≠ body.length then
    .error (.notWhole base (String.ofList text))
  else
    let size : Nat := digits.foldl (fun n c => n * base + (digit? base c).getD 0) 0
    .ok (if negative then -size else size)

/-- The whole number of a text without its sign. -/
def unsigned (text : List Char) : Except NumeralFault Int :=
  match text with
  | [] => .error .empty
  -- The letter after a zero names the base; any other zero in front stands for eight.
  | '0' :: 'b' :: rest => whole 2 rest
  | '0' :: 'x' :: rest => whole 16 rest
  | '0' :: _ => whole 8 text
  | _ => do
    let parts ← (splitColons text).mapM (whole 10)
    return parts.foldl (fun total part => total * 60 + part) 0

/-- The whole number that a scalar spells. -/
def wholeOf (text : String) : Except NumeralFault Int :=
  match text.toList.filter (· ≠ '_') with
  | [] => .error .empty
  | chars => do
    let (negative, body) := Decimal.splitSign chars
    let size ← unsigned body
    return if negative then -size else size

/-- The double of a text with blanks around it. -/
def double (text : List Char) : Except NumeralFault Float :=
  match Decimal.read? ((Text.trimBlanks text).map Digits.plain) with
  | some x => .ok x
  | none => .error (.notDouble (String.ofList text))

/-- A sum of sixtieths, given from the last one on, the unit of the first and what went before. -/
def sixtieths (total : Float) (unit : Int) : List Float → Except NumeralFault Float
  | [] => .ok total
  | part :: rest =>
    match (Number.int unit).toFloat with
    | .ok size => sixtieths (total + part * size) (unit * 60) rest
    | .error _ => .error .tooLarge

/-- The characters of a scalar that matter to a double. -/
def doubleChars (text : String) : List Char :=
  (Text.lowercase (String.ofList (text.toList.filter (· ≠ '_')))).toList

/-- The name of what is not a number. -/
def undefinedName : List Char := ".nan".toList

/-- Whether a scalar names what is not a number. -/
def namesUndefined (text : String) : Bool :=
  (Decimal.splitSign (doubleChars text)).2 = undefinedName

/-- The double that a scalar spells. -/
def doubleOf (text : String) : Except NumeralFault Float :=
  match doubleChars text with
  | [] => .error .empty
  | chars => do
    let (negative, body) := Decimal.splitSign chars
    let size ←
      if body = ".inf".toList then pure (1.0 / 0.0)
      else if body = undefinedName then pure (0.0 / 0.0)
      else if body.contains ':' then do
        let parts ← (splitColons body).mapM double
        sixtieths 0.0 1 parts.reverse
      else double body
    return if negative then -size else size

end Numeral

end Yaml

end Flowchart
