import Flowchart.Decimal.Shortest

/-! The text of a number: whole numbers in full, doubles by their shortest digits. -/

namespace Flowchart

namespace Decimal

/-- The spellings in which the written forms of doubles differ. -/
structure Spelling where
  /-- Not a number. -/
  undefined : String
  /-- Positive infinity; the negative one has a minus sign before it. -/
  infinite : String
  /-- A lone digit before an exponent carries `.0`. -/
  pointBeforeExponent : Bool

/-- Digits and a power of ten as text: positional for leading powers from `-4` to `15`, else
scientific with an exponent of at least two digits. -/
def render (style : Spelling) (d : Decimal) : String :=
  let digits := Nat.toDigits 10 d.digits
  let count := digits.length
  -- The power of the leading digit decides between the two notations.
  let leading : Int := d.exponent + count - 1
  if d.digits = 0 then "0.0"
  else if -4 ≤ leading ∧ leading < 16 then
    if 0 ≤ d.exponent then
      String.ofList (digits ++ List.replicate d.exponent.toNat '0') ++ ".0"
    else if 0 ≤ leading then
      let whole := leading.toNat + 1
      String.ofList (digits.take whole ++ '.' :: digits.drop whole)
    else
      "0." ++ String.ofList (List.replicate (leading.natAbs - 1) '0' ++ digits)
  else
    -- Trailing zeros are gone, so a lone digit stands without a point.
    let mantissa := match digits with
      | [] => "0"
      | [digit] => if style.pointBeforeExponent then digit.toString ++ ".0" else digit.toString
      | digit :: rest => String.ofList (digit :: '.' :: rest)
    let power := Nat.repr leading.natAbs
    -- One digit of the exponent is filled up to two.
    let power := if power.length < 2 then "0" ++ power else power
    mantissa ++ (if leading < 0 then "e-" else "e+") ++ power

/-- A double as text, minus zero with its sign. -/
def ofFloat (style : Spelling) (x : Float) : String :=
  match Binary64.ofFloat? x with
  | some value => (if value.negative then "-" else "") ++ render style (shortest value)
  | none =>
    if x.isNaN then style.undefined
    else if Binary64.isNegative x then "-" ++ style.infinite else style.infinite

end Decimal

end Flowchart
