/-! Sets of characters given by sorted ranges of code points. -/

namespace Flowchart

namespace Ranges

/-- Looks for a code point in a sorted table between two indices, halving the distance. -/
def search (table : Array (Nat × Nat)) (code : Nat) : Nat → Nat → Nat → Bool
  | 0, _, _ => false
  | fuel + 1, low, high =>
    if low < high then
      let middle := (low + high) / 2
      match table[middle]? with
      | some (first, last) =>
        if code < first then search table code fuel low middle
        else if last < code then search table code fuel (middle + 1) high
        else true
      | none => false
    else false

/-- Whether a character lies in one of the ranges of a sorted table. -/
def contains (table : Array (Nat × Nat)) (c : Char) : Bool :=
  search table c.toNat (table.size + 1) 0 table.size

end Ranges

end Flowchart
