import Flowchart.Decimal.Shortest

/-! Decimal texts read as the nearest double. -/

namespace Flowchart

namespace Decimal

/-- The value of a decimal digit. -/
def digitValue (c : Char) : Nat := c.toNat - '0'.toNat

/-- The whole number written by a list of digits. -/
def wholeOfDigits (digits : List Char) : Nat :=
  digits.foldl (fun n c => 10 * n + digitValue c) 0

/-- The double nearest to a decimal. Far outside the range of doubles it is zero or infinite,
whatever the digits. -/
def toFloat (d : Decimal) : Float :=
  -- The bounds spare huge powers and leave the range of doubles far inside.
  let leading : Int := d.exponent + digitCount d.digits
  if d.digits = 0 then 0.0
  else if leading > 400 then 1.0 / 0.0
  else if leading < -400 then 0.0
  else Float.ofScientific d.digits (d.exponent < 0) d.exponent.natAbs

/-- The double nearest to a decimal, with a sign. -/
def toSignedFloat (negative : Bool) (d : Decimal) : Float :=
  if negative then -d.toFloat else d.toFloat

/-- The digits of a text before and after its point, and its power of ten, as one decimal. -/
def ofParts (whole fraction : List Char) (power : Int) : Decimal :=
  ⟨wholeOfDigits (whole ++ fraction), power - fraction.length⟩

/-- Splits off a sign. -/
def splitSign : List Char → Bool × List Char
  | '-' :: rest => (true, rest)
  | '+' :: rest => (false, rest)
  | rest => (false, rest)

/-- The power of ten after `e`, as the whole rest of a text; no `e` is the power zero. -/
def readPower? : List Char → Option Int
  | [] => some 0
  | c :: rest =>
    if c = 'e' ∨ c = 'E' then
      let (negative, digits) := splitSign rest
      if digits ≠ [] ∧ digits.all Char.isDigit then
        let power : Int := wholeOfDigits digits
        some (if negative then -power else power)
      else none
    else none

/-- A number in digits, with an optional point and power, as the whole of a text. Digits have to
stand on one side of the point at least. -/
def readUnsigned? (text : List Char) : Option Float :=
  let whole := text.takeWhile Char.isDigit
  let rest := text.dropWhile Char.isDigit
  let (fraction, rest) := match rest with
    | '.' :: after => (after.takeWhile Char.isDigit, after.dropWhile Char.isDigit)
    | _ => ([], rest)
  -- A point without any digit is no number.
  if whole = [] ∧ fraction = [] then none
  else (readPower? rest).map fun power => (ofParts whole fraction power).toFloat

/-- A number as the whole of a text: digits, or infinity or not-a-number in any case. -/
def read? (text : List Char) : Option Float :=
  let (negative, body) := splitSign text
  -- The words are looked for first, since none of them starts with a digit.
  let word := String.ofList (body.map Char.toLower)
  let magnitude :=
    if word = "inf" ∨ word = "infinity" then some (1.0 / 0.0)
    else if word = "nan" then some (0.0 / 0.0)
    else readUnsigned? body
  magnitude.map fun x => if negative then -x else x

end Decimal

end Flowchart
