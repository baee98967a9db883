import Flowchart.Text.PrintableTable
import Flowchart.Text.Ranges

/-! Texts shown in quotes: single quotes unless only double ones avoid an escape, and everything
that cannot be printed escaped by its code. -/

namespace Flowchart

namespace Text

/-- Whether a character is shown as it is. -/
def isPrintable (c : Char) : Bool :=
  if c.toNat < 0x7F then 0x20 ≤ c.toNat else Ranges.contains printableRanges c

/-- The lowest hexadecimal digits of a number, as many as asked for. -/
def hexDigits : Nat → Nat → List Char
  | 0, _ => []
  | count + 1, n => hexDigits count (n / 16) ++ [Nat.digitChar (n % 16)]

/-- A character between quotes of the given kind. -/
def showChar (mark c : Char) : List Char :=
  if c = mark ∨ c = '\\' then ['\\', c]
  else if c = '\n' then ['\\', 'n']
  else if c = '\r' then ['\\', 'r']
  else if c = '\t' then ['\\', 't']
  else if isPrintable c then [c]
  else if c.toNat < 0x100 then '\\' :: 'x' :: hexDigits 2 c.toNat
  else if c.toNat < 0x10000 then '\\' :: 'u' :: hexDigits 4 c.toNat
  else '\\' :: 'U' :: hexDigits 8 c.toNat

/-- The quotation mark for a text. -/
def quotationMark (text : List Char) : Char :=
  -- The apostrophe changes the marks only where they would not need an escape.
  if text.contains '\x27' ∧ ¬ text.contains '"' then '"' else '\x27'

/-- A text in quotes. -/
def quoted (text : String) : String :=
  let chars := text.toList
  let mark := quotationMark chars
  String.ofList (mark :: chars.flatMap (showChar mark) ++ [mark])

end Text

end Flowchart
