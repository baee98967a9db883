import Flowchart.Decimal.Reader
import Flowchart.Decimal.Spelling

/-! Numbers that keep their kind: whole numbers of any size, and doubles. -/

namespace Flowchart

/-- A whole number or a double. -/
inductive Number where
  | int (value : Int)
  | float (value : Float)
deriving DecidableEq, Inhabited

namespace Number

/-- Why arithmetic on two numbers has no answer. -/
inductive Fault where
  /-- A whole number is beyond the largest double. -/
  | tooLarge
  /-- An infinity has no whole part. -/
  | infinite
  /-- What is not a number has no whole part. -/
  | undefined
deriving DecidableEq

/-- The wording of a fault. -/
def Fault.message : Fault → String
  | tooLarge => "int too large to convert to float"
  | infinite => "cannot convert float infinity to integer"
  | undefined => "cannot convert float NaN to integer"

/-- The double nearest to a whole number, if it is finite. -/
def floatOfInt? (value : Int) : Option Float :=
  -- Rounding may reach infinity, which no whole number is.
  let x := Decimal.toSignedFloat (value < 0) ⟨value.natAbs, 0⟩
  if x.isFinite then some x else none

/-- The number as a double. -/
def toFloat : Number → Except Fault Float
  | int value => match floatOfInt? value with
    | some x => .ok x
    | none => .error .tooLarge
  | float x => .ok x

/-- The difference, whole when both sides are. -/
def sub : Number → Number → Except Fault Number
  | int a, int b => .ok (int (a - b))
  -- A double on either side makes the answer a double.
  | a, b => do
    let x ← a.toFloat
    let y ← b.toFloat
    return float (x - y)

/-- The sum, whole when both sides are. -/
def add : Number → Number → Except Fault Number
  | int a, int b => .ok (int (a + b))
  | a, b => do
    let x ← a.toFloat
    let y ← b.toFloat
    return float (x + y)

/-- Whether a fraction is below another, by cross multiplication. -/
private def fractionLt (a b : Int × Nat) : Bool := a.1 * b.2 < b.1 * a.2

/-- The exact value of a number, `none` for infinities and not-a-number. -/
def fraction? : Number → Option (Int × Nat)
  | int value => some (value, 1)
  | float x => (Binary64.ofFloat? x).map Binary64.toFraction

/-- Exact comparison, whatever the kinds. Not-a-number is below nothing and above nothing. -/
def lt (a b : Number) : Bool :=
  -- Fractions decide between finite values; the rest is left to the order of doubles.
  match a.fraction?, b.fraction? with
  | some x, some y => fractionLt x y
  | none, some _ => match a with
    | float x => x < 0.0
    | int _ => false
  | some _, none => match b with
    | float y => 0.0 < y
    | int _ => false
  | none, none => match a, b with
    | float x, float y => x < y
    | _, _ => false

/-- Exact equality of value, whatever the kinds. Not-a-number equals nothing. -/
def sameValue (a b : Number) : Bool :=
  match a.fraction?, b.fraction? with
  | some x, some y => x.1 * y.2 = y.1 * x.2
  | none, none => match a, b with
    | float x, float y => x == y
    | _, _ => false
  | _, _ => false

/-- At most, by exact value. -/
def le (a b : Number) : Bool := a.lt b || a.sameValue b

/-- Whether the number is zero, of either kind and sign. -/
def isZero : Number → Bool
  | int value => value = 0
  | float x => x == 0.0

/-- The whole part of a number, its sign kept. -/
def whole : Number → Except Fault Int
  | int value => .ok value
  | float x =>
    match Binary64.ofFloat? x with
    | some value =>
      -- Division toward zero cuts off what is behind the point.
      let (numerator, denominator) := value.toFraction
      .ok (numerator.tdiv denominator)
    | none => .error (if x.isNaN then .undefined else .infinite)

/-- A thousand times a number. -/
def timesThousand : Number → Number
  | int value => int (value * 1000)
  | float x => float (x * 1000.0)

/-- The text of a number: whole numbers in digits, doubles in the given spelling. -/
def render (style : Decimal.Spelling) : Number → String
  | int value => toString value
  | float x => Decimal.ofFloat style x

end Number

end Flowchart
