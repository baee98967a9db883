/-! How alike two texts are: twice the length of what they share in order, over their length
together. -/

namespace Flowchart

namespace Text

/-- How many characters two texts start with in common. -/
def commonStart : List Char → List Char → Nat
  | a :: as, b :: bs => if a = b then commonStart as bs + 1 else 0
  | _, _ => 0

/-- A run of characters that stands in two texts. -/
structure Block where
  first : Nat
  second : Nat
  size : Nat
deriving DecidableEq

/-- The longer of two blocks, the former one if they are of one size. -/
def Block.longer (block other : Block) : Block := if block.size < other.size then other else block

/-- The longest block that starts where the first text does; its place in the second text is the
earliest one. -/
def blockAtStart (text : List Char) (first : Nat) : (second : Nat) → List Char → Block
  | second, [] => ⟨first, second, 0⟩
  | second, c :: rest =>
    Block.longer ⟨first, second, commonStart text (c :: rest)⟩
      (blockAtStart text first (second + 1) rest)

/-- The longest block of two texts, the earliest in the first text and then in the second. -/
def longestBlock (other : List Char) : (first : Nat) → List Char → Block
  | first, [] => ⟨first, 0, 0⟩
  | first, c :: rest =>
    (blockAtStart (c :: rest) first 0 other).longer (longestBlock other (first + 1) rest)

/-- The number of characters in the longest block, and in those found in the same way before and
after it. The fuel bounds how deep the search goes. -/
def sharedCount : (fuel : Nat) → List Char → List Char → Nat
  | 0, _, _ => 0
  | fuel + 1, text, other =>
    -- What comes before the block can match only what comes before it, and so for after.
    let block := longestBlock other 0 text
    if block.size = 0 then 0
    else
      block.size + sharedCount fuel (text.take block.first) (other.take block.second) +
        sharedCount fuel (text.drop (block.first + block.size))
          (other.drop (block.second + block.size))

/-- How alike a text is to another: twice the shared count over the length of both. -/
def likeness (text other : String) : Nat × Nat :=
  let text := text.toList
  let other := other.toList
  (2 * sharedCount (text.length + 1) text other, text.length + other.length)

/-- Whether one ratio is at least another. -/
def atLeast (ratio bound : Nat × Nat) : Bool := bound.1 * ratio.2 ≤ ratio.1 * bound.2

/-- The least likeness that counts as similar. -/
def similarBound : Nat × Nat := (3, 5)

/-- How many similar texts are given at most. -/
def similarLimit : Nat := 3

/-- The texts most like a word, best first; of texts that are equally alike the greater one comes
first. -/
def similar (word : String) (texts : List String) : List String :=
  let rated := texts.map fun text => (likeness text word, text)
  let close := rated.filter fun entry => atLeast entry.1 similarBound
  -- Equal ratings are told apart by the texts themselves.
  let before (a b : (Nat × Nat) × String) : Bool :=
    if atLeast a.1 b.1 then !atLeast b.1 a.1 || b.2 ≤ a.2 else false
  ((close.mergeSort before).take similarLimit).map Prod.snd

end Text

end Flowchart
