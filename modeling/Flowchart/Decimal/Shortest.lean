import Flowchart.Decimal.Binary64

/-! The fewest decimal digits that read back as a given double. -/

namespace Flowchart

/-- The decimal number `digits * 10 ^ exponent`. -/
structure Decimal where
  digits : Nat
  exponent : Int
deriving DecidableEq, Inhabited

namespace Decimal

/-- How many decimal digits a whole number is written with. -/
def digitCount (n : Nat) : Nat := (Nat.toDigits 10 n).length

/-- The power of ten of the leading digit of a positive fraction. -/
def leadingPower (numerator denominator : Nat) : Int :=
  if denominator ≤ numerator then (digitCount (numerator / denominator) : Int) - 1
  else
    let count := digitCount (denominator / numerator)
    if denominator ≤ numerator * Nat.pow 10 (count - 1) then -((count : Int) - 1)
    else -(count : Int)

/-- `10 ^ power` as a fraction. -/
def powerOfTen (power : Int) : Nat × Nat :=
  if power < 0 then (1, Nat.pow 10 power.natAbs) else (Nat.pow 10 power.natAbs, 1)

/-- Moves trailing zeros of the digits into the exponent. -/
def trim : Nat → Decimal → Decimal
  | 0, d => d
  | fuel + 1, d =>
    if d.digits ≠ 0 ∧ d.digits % 10 = 0 then trim fuel ⟨d.digits / 10, d.exponent + 1⟩ else d

/-- The reals that round to a double: four times its value, and the ends of its interval, all
over one denominator. -/
structure Rounding where
  value : Nat
  low : Nat
  high : Nat
  denominator : Nat
  closed : Bool

/-- The interval around a positive double. Below a power of two the neighbour is half as far. -/
def Rounding.of (x : Binary64) : Rounding :=
  let low := if x.significand = Binary64.fractionUnit ∧ x.exponent ≠ -1074
    then 4 * x.significand - 1 else 4 * x.significand - 2
  let scale := if x.exponent < 0 then 1 else Nat.pow 2 x.exponent.natAbs
  let denominator := if x.exponent < 0 then 4 * Nat.pow 2 x.exponent.natAbs else 4
  ⟨4 * x.significand * scale, low * scale, (4 * x.significand + 2) * scale, denominator,
    x.significand % 2 = 0⟩

/-- Whether a multiple of a power of ten rounds to the double. -/
def Rounding.holds (r : Rounding) (digits : Nat) (power : Nat × Nat) : Bool :=
  let scaled := digits * power.1 * r.denominator
  let low := r.low * power.2
  let high := r.high * power.2
  if r.closed then low ≤ scaled ∧ scaled ≤ high else low < scaled ∧ scaled < high

/-- The better of the two neighbours of the value on the grid with `count` digits. -/
def Rounding.onGrid? (r : Rounding) (leading : Int) (count : Nat) : Option Decimal :=
  -- The grid has as many digits as asked for from the leading one on.
  let exponent := leading - (count : Int) + 1
  let power := powerOfTen exponent
  let below := r.value * power.2 / (power.1 * r.denominator)
  let twice := 2 * (r.value * power.2) - 2 * (below * power.1 * r.denominator)
  let gap := power.1 * r.denominator
  -- If any point of the grid rounds to the double, one of these two does.
  match r.holds below power, r.holds (below + 1) power with
  | true, true =>
    if twice < gap ∨ (twice = gap ∧ below % 2 = 0) then some ⟨below, exponent⟩
    else some ⟨below + 1, exponent⟩
  | true, false => some ⟨below, exponent⟩
  | false, true => some ⟨below + 1, exponent⟩
  | false, false => none

/-- The first grid, from `count` digits on, that holds a decimal rounding to the double. -/
def Rounding.search (r : Rounding) (leading : Int) : Nat → Nat → Decimal
  | 0, _ => ⟨0, 0⟩
  | fuel + 1, count => (r.onGrid? leading count).getD (r.search leading fuel (count + 1))

/-- The shortest decimal that rounds to the magnitude of a finite double, the nearest of those of
that length. Seventeen digits always suffice. -/
def shortest (x : Binary64) : Decimal :=
  if x.significand = 0 then ⟨0, 0⟩
  else
    -- The shortest grid with a hit ends the search.
    let (numerator, denominator) := x.magnitude
    trim 17 ((Rounding.of x).search (leadingPower numerator denominator) 17 1)

end Decimal

end Flowchart
