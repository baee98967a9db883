import Flowchart.Text.CaseTables
import Flowchart.Text.Ranges

/-! Lower case of any text. Two letters need more than a table: the dotted capital I becomes two
characters, and a capital sigma at the end of a word has a form of its own. -/

namespace Flowchart

namespace Text

/-- The run of capital letters that a code point belongs to, looked for by halving. -/
def findRun (code : Nat) : Nat → Nat → Nat → Option (Nat × Nat × Nat × Int)
  | 0, _, _ => none
  | fuel + 1, low, high =>
    if low < high then
      let middle := (low + high) / 2
      -- Runs are in order and apart, so the code point lies in one half.
      match CaseTables.lowercase[middle]? with
      | some run =>
        if code < run.1 then findRun code fuel low middle
        else if run.2.1 < code then findRun code fuel (middle + 1) high
        else some run
      | none => none
    else none

/-- The lower case of a character outside ASCII that has one of a single character. -/
def lowerByTable (c : Char) : Char :=
  let size := CaseTables.lowercase.size
  match findRun c.toNat (size + 1) 0 size with
  | some (first, _, step, distance) =>
    -- A run of steps of two covers every second letter only.
    if (c.toNat - first) % step = 0 then Char.ofNat (c.toNat + distance).toNat else c
  | none => c

/-- Whether the first character that counts as context has case. -/
def meetsCased (context : List Char) : Bool :=
  match context.dropWhile (Ranges.contains CaseTables.passedOver) with
  | c :: _ => Ranges.contains CaseTables.cased c
  | [] => false

/-- The lower case of a character between the text before it, in reverse, and the text after. -/
def lowerChar (before : List Char) (c : Char) (after : List Char) : List Char :=
  if c.toNat < 0x80 then [c.toLower]
  else if c = '\u03A3' then
    -- A sigma is final after a letter with case and before none.
    [if meetsCased before && !meetsCased after then '\u03C2' else '\u03C3']
  else if c = '\u0130' then ['i', '\u0307']
  else [lowerByTable c]

/-- Lower case of the characters of a text, given those before it in reverse. -/
def lowerChars : (before text : List Char) → List Char
  | _, [] => []
  | before, c :: rest => lowerChar before c rest ++ lowerChars (c :: before) rest

/-- The lower case of a text. -/
def lowercase (text : String) : String := String.ofList (lowerChars [] text.toList)

/-- Whether a list of characters occurs within another. -/
def occursIn (part : List Char) : List Char → Bool
  | [] => part.isEmpty
  | c :: rest => part.isPrefixOf (c :: rest) || occursIn part rest

/-- Whether a text occurs within another. -/
def contains (text part : String) : Bool := occursIn part.toList text.toList

end Text

end Flowchart
