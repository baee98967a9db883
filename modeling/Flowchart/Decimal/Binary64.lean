/-! Doubles as exact values: a whole significand scaled by a power of two. -/

namespace Flowchart

/-- The exact value `significand * 2 ^ exponent` of a finite double, negated when `negative`. -/
structure Binary64 where
  negative : Bool
  significand : Nat
  exponent : Int
deriving DecidableEq, Inhabited

namespace Binary64

/-- The significand of a double holds this many bits below its leading one. -/
def fractionBits : Nat := 52

/-- The power of two at the leading one of a significand. -/
def fractionUnit : Nat := Nat.pow 2 fractionBits

/-- The number of exponents, the one for infinities included. -/
def exponentUnit : Nat := Nat.pow 2 11

/-- The power of two at the sign bit. -/
def signUnit : Nat := Nat.pow 2 63

/-- The exact value of a double; infinities and not-a-number have none. -/
def ofFloat? (x : Float) : Option Binary64 :=
  let bits := x.toBits.toNat
  let negative := decide (bits / signUnit = 1)
  let biased := bits / fractionUnit % exponentUnit
  let fraction := bits % fractionUnit
  if biased = exponentUnit - 1 then none
  -- Without a leading one the exponent stays at its least.
  else if biased = 0 then some ⟨negative, fraction, -1074⟩
  else some ⟨negative, fractionUnit + fraction, Int.ofNat biased - 1075⟩

/-- Whether the sign of a double is set, the sign of zero included. -/
def isNegative (x : Float) : Bool := decide (x.toBits.toNat / signUnit = 1)

/-- The magnitude as a fraction of two whole numbers. -/
def magnitude (value : Binary64) : Nat × Nat :=
  if value.exponent < 0 then (value.significand, Nat.pow 2 value.exponent.natAbs)
  else (value.significand * Nat.pow 2 value.exponent.natAbs, 1)

/-- The signed numerator over a positive denominator. -/
def toFraction (value : Binary64) : Int × Nat :=
  let (numerator, denominator) := value.magnitude
  (if value.negative then -(numerator : Int) else numerator, denominator)

end Binary64

end Flowchart
