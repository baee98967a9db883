import Flowchart.Json.Reader
import Flowchart.Text.Encoding
import Flowchart.Yaml.Cursor
import Flowchart.Yaml.Token

/-! Reading the texts of YAML: plain ones, quoted ones, and blocks of lines. -/

namespace Flowchart

namespace Yaml

namespace Cursor

/-- Reads line ends with blanks and tabs around them. A mark of a document may not come between. -/
def quotedBreaks : Nat → Cursor → Option (List Char × Cursor)
  | 0, _ => none
  | fuel + 1, cursor =>
    if cursor.atAnyMark then none
    else
      let cursor := cursor.dropWhile fun c => c = ' ' || c = '\t'
      if isLineEnd cursor.peek then do
        let (first, cursor) := cursor.lineEnd
        let (more, cursor) ← quotedBreaks fuel cursor
        return (first ++ more, cursor)
      else some ([], cursor)

/-- What a line end and those after it come to: one alone is a blank. -/
def foldBreaks (first more : List Char) : List Char :=
  -- A line end of a special kind is kept as it is.
  if first ≠ ['\n'] then first ++ more else if more.isEmpty then [' '] else more

/-- Reads the blanks between two words in quotes, line ends among them. -/
def quotedBlanks (cursor : Cursor) : Option (List Char × Cursor) :=
  let (blanks, cursor) := cursor.span fun c => c = ' ' || c = '\t'
  if cursor.atEnd then none
  -- Blanks before a line end go away with it.
  else if isLineEnd cursor.peek then do
    let (first, cursor) := cursor.lineEnd
    let (more, cursor) ← cursor.quotedBreaks cursor.fuel
    return (foldBreaks first more, cursor)
  else some (blanks, cursor)

/-- The characters that letters after a backslash stand for. -/
def escapedChars : List (Char × Char) :=
  [('0', '\x00'), ('a', '\x07'), ('b', '\x08'), ('t', '\t'), ('\t', '\t'), ('n', '\n'),
    ('v', '\x0b'), ('f', '\x0c'), ('r', '\r'), ('e', '\x1b'), (' ', ' '), ('"', '"'),
    ('\\', '\\'), ('/', '/'), ('N', '\x85'), ('_', '\xa0'), ('L', '\u2028'), ('P', '\u2029')]

/-- The letters after which a character is written by its code, and how many digits it has. -/
def codeLengths : List (Char × Nat) := [('x', 2), ('u', 4), ('U', 8)]

/-- The number that hexadecimal digits write. -/
def hexNumber? (digits : List Char) : Option Nat :=
  digits.foldlM (fun code digit => (Json.hexValue? digit).map (code * 16 + ·)) 0

/-- The code that some digits at hand write. -/
def codeAhead? (cursor : Cursor) (length : Nat) : Option Nat :=
  let digits := cursor.rest.take length
  if digits.length = length then hexNumber? digits else none

/-- Reads a character written by its code. -/
def coded (cursor : Cursor) (length : Nat) : Except TokenFault (List Char × Cursor) := do
  let code ← wellFormed (cursor.codeAhead? length)
  if code < 0x110000 then return ([Encoding.charOf code], cursor.skip length)
  else if code < 0x80000000 then throw .noCharacter
  else throw .codeTooLarge

/-- Reads an escape after its backslash. One at the end of a line joins it with the next. -/
def escape (cursor : Cursor) : Except TokenFault (List Char × Cursor) :=
  let letter := cursor.peek
  match escapedChars.find? fun entry => entry.1 == letter with
  | some entry => .ok ([entry.2], cursor.next)
  | none =>
    match codeLengths.find? fun entry => entry.1 == letter with
    | some entry => cursor.next.coded entry.2
    | none =>
      if isLineEnd letter then
        let cursor := cursor.lineEnd.2
        wellFormed (cursor.quotedBreaks cursor.fuel)
      else .error .malformed

/-- The characters at which a run in quotes is looked at more closely. -/
def stopsQuoted (c : Char) : Bool :=
  c = '\x27' || c = '"' || c = '\\' || isSeparator c

/-- Reads characters in quotes of either kind up to the closing one. -/
def quotedChars (mark : Char) : Nat → Cursor → Except TokenFault (List Char × Cursor)
  | 0, _ => .error .malformed
  | fuel + 1, cursor =>
    -- A run without marks, blanks and escapes is taken as it is.
    let (run, cursor) := cursor.span fun c => !stopsQuoted c
    let c := cursor.peek
    let goOn (read : List Char) (cursor : Cursor) : Except TokenFault (List Char × Cursor) := do
      let (more, cursor) ← quotedChars mark fuel cursor
      return (run ++ read ++ more, cursor)
    if cursor.atEnd then .error .malformed
    else if mark = '\x27' ∧ c = '\x27' ∧ cursor.peekAt 1 = '\x27' then goOn ['\x27'] (cursor.skip 2)
    else if c = mark then .ok (run, cursor.next)
    else if mark = '"' ∧ c = '\\' then do
      let (read, cursor) ← cursor.next.escape
      goOn read cursor
    else if isSeparator c then do
      let (read, cursor) ← wellFormed cursor.quotedBlanks
      goOn read cursor
    else goOn [c] cursor.next

/-- Reads a text in quotes. -/
def quoted (cursor : Cursor) : Except TokenFault (String × Cursor) := do
  let (chars, cursor) ← cursor.next.quotedChars cursor.peek cursor.fuel
  return (String.ofList chars, cursor)

/-- How long a run of plain characters is. Inside brackets more characters end it. -/
def plainLength (inFlow : Bool) : List Char → Nat
  | [] => 0
  | c :: rest =>
    let next := rest.headD '\x00'
    if isSeparator c then 0
    else if c = ':' && (isSeparator next || (inFlow && ",[]\x7b\x7d".toList.contains next)) then 0
    else if inFlow && ",?[]\x7b\x7d".toList.contains c then 0
    else plainLength inFlow rest + 1

/-- Reads the line ends and blanks after the first line end in a plain text; `none` in place of the
line ends when a mark of a document comes up. -/
def plainBreaks : Nat → Cursor → Option (List Char) × Cursor
  | 0, cursor => (some [], cursor)
  | fuel + 1, cursor =>
    if cursor.peek = ' ' then plainBreaks fuel cursor.next
    else if isLineEnd cursor.peek then
      let (first, cursor) := cursor.lineEnd
      if cursor.atAnyMark then (none, cursor)
      else
        let (more, cursor) := plainBreaks fuel cursor
        (more.map (first ++ ·), cursor)
    else (some [], cursor)

/-- Reads the blanks after a word of a plain text, and tells whether the line ended. Nothing is
read as blanks when the text cannot go on. -/
def plainBlanks (cursor : Cursor) : List Char × Bool × Cursor :=
  let (blanks, cursor) := cursor.span (· = ' ')
  if isLineEnd cursor.peek then
    let (first, cursor) := cursor.lineEnd
    if cursor.atAnyMark then ([], true, cursor)
    else
      let (more, cursor) := cursor.plainBreaks cursor.fuel
      match more with
      | some more => (foldBreaks first more, true, cursor)
      | none => ([], true, cursor)
  else (blanks, false, cursor)

/-- Reads a plain text, which ends at a line that is indented less. Tells whether a line ended
after its last word. -/
def plainWords (inFlow : Bool) (indent : Nat) : Nat → (blanks : List Char) → (lineEnded : Bool) →
    Cursor → List Char × Bool × Cursor
  | 0, _, lineEnded, cursor => ([], lineEnded, cursor)
  | fuel + 1, blanks, lineEnded, cursor =>
    let length := plainLength inFlow cursor.rest
    if cursor.peek = '#' || length = 0 then ([], lineEnded, cursor)
    else
      let word := cursor.rest.take length
      let (after, lineEnded, cursor) := (cursor.skip length).plainBlanks
      -- A number sign after a blank starts a comment.
      if after.isEmpty || cursor.peek = '#' || (!inFlow && cursor.column < indent) then
        (blanks ++ word, lineEnded, cursor)
      else
        let (more, lineEnded, cursor) := plainWords inFlow indent fuel after lineEnded cursor
        (blanks ++ word ++ more, lineEnded, cursor)

/-- Reads a plain text. -/
def plain (cursor : Cursor) (inFlow : Bool) (indent : Nat) : String × Bool × Cursor :=
  let (chars, lineEnded, cursor) :=
    cursor.plainWords inFlow indent cursor.fuel [] false
  (String.ofList chars, lineEnded, cursor)

/-- What happens to the line ends at the end of a block. -/
inductive Chomping where
  | clip
  | strip
  | keep
deriving DecidableEq

/-- The sign that says what happens to line ends. -/
def chompingOf? (c : Char) : Option Chomping :=
  if c = '+' then some .keep else if c = '-' then some .strip else none

/-- The indentation that a digit asks for; zero is none that can be asked for. -/
def indentOf? (c : Char) : Option Nat :=
  if c.isDigit ∧ c ≠ '0' then some (c.toNat - '0'.toNat) else none

/-- Reads what the first line of a block says about it: a sign and a digit in either order. -/
def blockHeader (cursor : Cursor) : Option (Chomping × Option Nat × Cursor) :=
  let (chomping, indent, cursor) :=
    match chompingOf? cursor.peek with
    | some chomping =>
      match indentOf? cursor.next.peek with
      | some indent => (chomping, some indent, cursor.skip 2)
      | none => (chomping, none, cursor.next)
    | none =>
      match indentOf? cursor.peek with
      | some indent =>
        match chompingOf? cursor.next.peek with
        | some chomping => (chomping, some indent, cursor.skip 2)
        | none => (.clip, some indent, cursor.next)
      | none => (.clip, none, cursor)
  if isGap cursor.peek then cursor.finishLine.map fun cursor => (chomping, indent, cursor)
  else none

/-- Reads the empty lines before a block, and finds the deepest indentation among them and of the
line after them. -/
def blockStart : Nat → (deepest : Nat) → Cursor → List Char × Nat × Cursor
  | 0, deepest, cursor => ([], deepest, cursor)
  | fuel + 1, deepest, cursor =>
    if cursor.peek = ' ' then
      let cursor := cursor.next
      blockStart fuel (max deepest cursor.column) cursor
    else if isLineEnd cursor.peek then
      let (first, cursor) := cursor.lineEnd
      let (more, deepest, cursor) := blockStart fuel deepest cursor
      (first ++ more, deepest, cursor)
    else ([], deepest, cursor)

/-- Goes past blanks up to a column. -/
def skipIndent (indent : Nat) (cursor : Cursor) : Cursor :=
  cursor.skip ((cursor.rest.take (indent - cursor.column)).takeWhile (· = ' ')).length

/-- Reads the empty lines inside a block, and goes to the indentation of the next line. -/
def blockBreaks (indent : Nat) : Nat → Cursor → List Char × Cursor
  | 0, cursor => ([], cursor)
  | fuel + 1, cursor =>
    let cursor := cursor.skipIndent indent
    if isLineEnd cursor.peek then
      let (first, cursor) := cursor.lineEnd
      let (more, cursor) := blockBreaks indent fuel cursor
      (first ++ more, cursor)
    else ([], cursor)

/-- Blanks and tabs. -/
def isBlank (c : Char) : Bool := c = ' ' || c = '\t'

/-- Whether another line of a block stands here. -/
def atBlockLine (cursor : Cursor) (indent : Nat) : Bool :=
  cursor.column = indent && !cursor.atEnd

/-- The end of a block: its last line end, and the empty lines after it. -/
def blockEnd (chomping : Chomping) (last more : List Char) : List Char :=
  match chomping with
  | .clip => last
  | .strip => []
  | .keep => last ++ more

/-- Reads the lines of a block, given the empty lines before the first of them. In a folded block a
line end between two lines that start with a word is a blank. -/
def blockLines (folded : Bool) (chomping : Chomping) (indent : Nat) :
    Nat → (before : List Char) → Cursor → List Char × Cursor
  | 0, _, cursor => ([], cursor)
  | fuel + 1, before, cursor =>
    let startsWithWord := !isBlank cursor.peek
    let (line, cursor) := cursor.span fun c => !endsLine c
    let (ending, cursor) := cursor.lineEnd
    let (breaks, cursor) := cursor.blockBreaks indent cursor.fuel
    if cursor.atBlockLine indent then
      -- Lines that start with a blank keep their line ends.
      let joins := folded && ending = ['\n'] && startsWithWord && !isBlank cursor.peek
      let ending := if joins then (if breaks.isEmpty then [' '] else []) else ending
      let (more, cursor) := blockLines folded chomping indent fuel breaks cursor
      (before ++ line ++ ending ++ more, cursor)
    else (before ++ line ++ blockEnd chomping ending breaks, cursor)

/-- Reads a block of lines inside something that is indented. -/
def block (cursor : Cursor) (folded : Bool) (outerIndent : Nat) : Option (String × Cursor) := do
  let (chomping, asked, cursor) ← cursor.next.blockHeader
  -- A digit asks for an indentation counted from the one outside.
  let least := max outerIndent 1
  let fuel := cursor.fuel
  let (before, indent, cursor) := match asked with
    | some asked =>
      let indent := least + asked - 1
      let (breaks, cursor) := cursor.blockBreaks indent fuel
      (breaks, indent, cursor)
    | none =>
      let (breaks, deepest, cursor) := cursor.blockStart fuel 0
      (breaks, max least deepest, cursor)
  let (chars, cursor) :=
    if cursor.atBlockLine indent then cursor.blockLines folded chomping indent fuel before
    else (blockEnd chomping [] before, cursor)
  return (String.ofList chars, cursor)

end Cursor

end Yaml

end Flowchart
