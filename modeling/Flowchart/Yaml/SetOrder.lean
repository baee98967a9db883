import Flowchart.Number

/-! The order in which a set lists numbers. Each takes a slot of a table by a code that all numbers
of one value share, and the set lists its slots. -/

namespace Flowchart

namespace Yaml

namespace SetOrder

/-- The prime that codes are remainders by. -/
def modulus : Nat := Nat.pow 2 61 - 1

/-- The remainder of a fraction whose denominator is a power of two. -/
def remainder (numerator denominator : Nat) : Nat :=
  -- Sixty-one doublings change no remainder, so halving is the same as doubling the rest of them.
  numerator * Nat.pow 2 (61 - Nat.log2 denominator % 61) % modulus

/-- The code of an infinity. -/
def infinityCode : Nat := 314159

/-- The code of a size with a sign, as a number of sixty-four bits. -/
def signed (negative : Bool) (size : Nat) : Nat :=
  -- There is no code of minus one.
  if negative ∧ size ≠ 0 then Nat.pow 2 64 - (if size = 1 then 2 else size) else size

/-- The code of a number. -/
def code (number : Number) : Nat :=
  match number.fraction? with
  | some (numerator, denominator) =>
    signed (numerator < 0) (remainder numerator.natAbs denominator)
  | none => signed (number.lt (.int 0)) infinityCode

/-- How many slots a table for some members has: a power of two. -/
def slotCount (members : Nat) : Nat :=
  if members ≤ 4 then 8 else Nat.pow 2 (Nat.log2 (2 * members) + 1)

/-- The slots that are tried from one on: ten in a row, or close to the end of the table that one
alone. -/
def nearby (count slot : Nat) : List Nat :=
  if slot + 9 < count then (List.range 10).map (slot + ·) else [slot]

/-- The first free slot of a series that a code spreads over the table. -/
def freeSlot (count : Nat) (isFree : Nat → Bool) : (fuel : Nat) → (spread slot : Nat) → Nat
  | 0, _, slot => slot
  | fuel + 1, spread, slot =>
    match (nearby count slot).find? isFree with
    | some free => free
    | none =>
      let spread := spread / 32
      freeSlot count isFree fuel spread ((slot * 5 + 1 + spread) % count)

/-- Puts an item into a table of so many slots, by the code of its number. -/
def insert {α : Type} (count : Nat) (table : List (Nat × α)) (entry : Number × α) :
    List (Nat × α) :=
  let isFree (slot : Nat) := !table.any fun other => other.1 == slot
  let start := code entry.1
  -- Once the code is used up the series comes to every slot.
  (freeSlot count isFree (count + 64) start (start % count), entry.2) :: table

/-- Items in the order in which a set lists their numbers. -/
def arrange {α : Type} (entries : List (Number × α)) : List α :=
  let count := slotCount entries.length
  let table := entries.foldl (insert count) []
  (List.range count).filterMap fun slot =>
    (table.find? fun entry => entry.1 == slot).map Prod.snd

end SetOrder

end Yaml

end Flowchart
