import Flowchart.Yaml.Characters

/-! A place in a text: what is still to be read, and the line and column it stands at. -/

namespace Flowchart

namespace Yaml

/-- The text from a place on, with the count of characters before it. -/
structure Cursor where
  rest : List Char
  /-- The length of the whole text, which bounds what is still to be done. -/
  size : Nat
  index : Nat
  line : Nat
  column : Nat

namespace Cursor

/-- The start of a text. -/
def start (text : List Char) : Cursor := ⟨text, text.length, 0, 0, 0⟩

/-- More steps than there are characters. -/
def fuel (cursor : Cursor) : Nat := cursor.size + 1

/-- The character at a distance; after the end there are null characters. -/
def peekAt (cursor : Cursor) (distance : Nat) : Char := cursor.rest.getD distance '\x00'

/-- The character at hand. -/
def peek (cursor : Cursor) : Char := cursor.rest.headD '\x00'

/-- Whether the text has ended. -/
def atEnd (cursor : Cursor) : Bool := cursor.rest.isEmpty

/-- Goes on by one character. A byte order mark takes no room on its line. -/
def next (cursor : Cursor) : Cursor :=
  match cursor.rest with
  | [] => cursor
  | c :: rest =>
    let moved := { cursor with rest, index := cursor.index + 1 }
    if isBreak c || (c = '\r' && rest.head? ≠ some '\n') then
      { moved with line := cursor.line + 1, column := 0 }
    else if c = '\uFEFF' then moved
    else { moved with column := cursor.column + 1 }

/-- Goes on by several characters. -/
def skip : Cursor → Nat → Cursor
  | cursor, 0 => cursor
  | cursor, count + 1 => cursor.next.skip count

/-- The longest run of characters of a class, and the place after it. -/
def span (cursor : Cursor) (test : Char → Bool) : List Char × Cursor :=
  let run := cursor.rest.takeWhile test
  (run, cursor.skip run.length)

/-- Goes past a run of characters of a class. -/
def dropWhile (cursor : Cursor) (test : Char → Bool) : Cursor := (cursor.span test).2

/-- Reads a line end, if there is one. All but two kinds read as a newline. -/
def lineEnd (cursor : Cursor) : List Char × Cursor :=
  match cursor.rest with
  | '\r' :: '\n' :: _ => (['\n'], cursor.skip 2)
  | c :: _ =>
    if c = '\u2028' || c = '\u2029' then ([c], cursor.next)
    else if isLineEnd c then (['\n'], cursor.next)
    else ([], cursor)
  | [] => ([], cursor)

/-- Whether three characters that mark the start or the end of a document stand here, with a
separator after them. -/
def atMark (cursor : Cursor) (mark : String) : Bool :=
  mark.toList.isPrefixOf cursor.rest && isSeparator (cursor.peekAt 3)

/-- Whether a mark of either kind stands here. -/
def atAnyMark (cursor : Cursor) : Bool := cursor.atMark "---" || cursor.atMark "..."

/-- Goes to the end of the line past blanks and a comment. Anything else there is a fault. -/
def finishLine (cursor : Cursor) : Option Cursor :=
  let cursor := cursor.dropWhile (· = ' ')
  let cursor := if cursor.peek = '#' then cursor.dropWhile fun c => !isLineEnd c else cursor
  if endsLine cursor.peek then some cursor.lineEnd.2 else none

end Cursor

end Yaml

end Flowchart
