import Flowchart.Yaml.Token.Labels
import Flowchart.Yaml.Token.Scalars

/-! Splitting YAML text into tokens. Indentation opens and closes blocks, and a key is known as one
only when its colon comes up; its mark is then put in its place among the tokens. -/

namespace Flowchart

namespace Yaml

/-- Something that turns out to be a key if a colon follows it on its line. -/
structure KeyPlace where
  /-- How many brackets are open around it. -/
  depth : Nat
  /-- How many tokens come before it. -/
  position : Nat
  /-- Where it stands, only a key makes sense. -/
  isRequired : Bool
  index : Nat
  line : Nat
  column : Nat

/-- The state of the splitting. -/
structure Lexer where
  cursor : Cursor
  tokens : Array Token
  /-- The indentation of the block at hand; none outside of all blocks. -/
  indent : Option Nat
  /-- The indentations of the blocks around it, inside first. -/
  outer : List (Option Nat)
  /-- How many brackets are open. -/
  depth : Nat
  /-- Whether a key may start here. -/
  allowsKey : Bool
  places : List KeyPlace

namespace Lexer

/-- The start of a text. -/
def start (text : List Char) : Lexer := ⟨.start text, #[], none, [], 0, true, []⟩

/-- Adds a token. -/
def push (lexer : Lexer) (token : Token) : Lexer := { lexer with tokens := lexer.tokens.push token }

/-- Goes on by several characters. -/
def skip (lexer : Lexer) (count : Nat) : Lexer := { lexer with cursor := lexer.cursor.skip count }

/-- Whether an indentation is deeper than a column. -/
def isDeeper (indent : Option Nat) (column : Nat) : Bool :=
  match indent with
  | some indent => column < indent
  | none => false

/-- Closes the blocks that are indented deeper than a column, none standing for all of them. -/
def closeBlocks (column : Option Nat) : List (Option Nat) → Lexer → Lexer
  | outer, lexer =>
    -- Every block that is left gets a mark for its end.
    let isOpen := match column with
      | some column => isDeeper lexer.indent column
      | none => lexer.indent.isSome
    if isOpen then
      match outer with
      | indent :: rest =>
        closeBlocks column rest { lexer.push .blockEnd with indent, outer := rest }
      | [] => { lexer.push .blockEnd with indent := none }
    else lexer

/-- Closes blocks, unless brackets are open. -/
def unwind (lexer : Lexer) (column : Option Nat) : Lexer :=
  if lexer.depth = 0 then closeBlocks column lexer.outer lexer else lexer

/-- Whether a block at a column is deeper than the one at hand. -/
def opensBlock (lexer : Lexer) (column : Nat) : Bool :=
  match lexer.indent with
  | none => true
  | some indent => indent < column

/-- Makes a column the indentation of the block at hand. -/
def enterBlock (lexer : Lexer) (column : Nat) : Lexer :=
  { lexer with indent := some column, outer := lexer.indent :: lexer.outer }

/-- Opens a block with a token, if the column is deeper. -/
def openBlock (lexer : Lexer) (token : Token) : Lexer :=
  let column := lexer.cursor.column
  if lexer.opensBlock column then (lexer.enterBlock column).push token else lexer

/-- Forgets the places that are too far back to be keys. A required key may not be forgotten. -/
def forgetStale (lexer : Lexer) : Option Lexer :=
  -- A key fits on one line and has at most so many characters before its colon.
  let isStale (place : KeyPlace) :=
    place.line ≠ lexer.cursor.line || 1024 < lexer.cursor.index - place.index
  if lexer.places.any fun place => isStale place && place.isRequired then none
  else some { lexer with places := lexer.places.filter fun place => !isStale place }

/-- Forgets the place at the present depth. -/
def forgetPlace (lexer : Lexer) : Option Lexer :=
  if lexer.places.any fun place => place.depth = lexer.depth && place.isRequired then none
  else some { lexer with places := lexer.places.filter fun place => place.depth ≠ lexer.depth }

/-- Remembers the present place as that of a possible key. -/
def savePlace (lexer : Lexer) : Option Lexer :=
  if lexer.allowsKey then do
    let cursor := lexer.cursor
    -- At the indentation of an object nothing but another key can stand.
    let isRequired := lexer.depth = 0 && lexer.indent = some cursor.column
    let lexer ← lexer.forgetPlace
    let place : KeyPlace :=
      ⟨lexer.depth, lexer.tokens.size, isRequired, cursor.index, cursor.line, cursor.column⟩
    return { lexer with places := place :: lexer.places }
  else some lexer

/-- Goes past blanks, comments and line ends to the next token. Outside of brackets a key may start
on a new line. -/
def skipGaps : Nat → Lexer → Lexer
  | 0, lexer => lexer
  | fuel + 1, lexer =>
    -- Tabs do not count as blanks between tokens.
    let cursor := lexer.cursor.dropWhile (· = ' ')
    let cursor := if cursor.peek = '#' then cursor.dropWhile fun c => !endsLine c else cursor
    if isLineEnd cursor.peek then
      skipGaps fuel
        { lexer with
          cursor := cursor.lineEnd.2
          allowsKey := lexer.allowsKey || lexer.depth = 0 }
    else { lexer with cursor }

/-- Goes past a byte order mark at the start of the text. -/
def skipMark (lexer : Lexer) : Lexer :=
  if lexer.cursor.index = 0 ∧ lexer.cursor.peek = '\uFEFF' then lexer.skip 1 else lexer

/-- Ends everything that is open before a line that concerns the document as a whole. -/
def endContent (lexer : Lexer) : Option Lexer := do
  let lexer ← (lexer.unwind none).forgetPlace
  return { lexer with allowsKey := false }

/-- Reads a mark of three characters. -/
def documentMark (lexer : Lexer) (token : Token) : Option Lexer := do
  return ((← lexer.endContent).push token).skip 3

/-- Reads a directive. -/
def directive (lexer : Lexer) : Except TokenFault Lexer := do
  let lexer ← wellFormed lexer.endContent
  let (directive, cursor) ← lexer.cursor.directive
  return { lexer.push (.directive directive) with cursor }

/-- Reads an opening bracket. -/
def openFlow (lexer : Lexer) (token : Token) : Option Lexer := do
  let lexer ← lexer.savePlace
  return ({ lexer with depth := lexer.depth + 1, allowsKey := true }.push token).skip 1

/-- Reads a closing bracket. -/
def closeFlow (lexer : Lexer) (token : Token) : Option Lexer := do
  let lexer ← lexer.forgetPlace
  if lexer.depth = 0 then none
  else return ({ lexer with depth := lexer.depth - 1, allowsKey := false }.push token).skip 1

/-- Reads a comma between brackets. -/
def flowEntry (lexer : Lexer) : Option Lexer := do
  return (({ lexer with allowsKey := true } : Lexer).push .flowEntry).skip 1

/-- Reads the dash of a list entry. -/
def blockEntry (lexer : Lexer) : Option Lexer := do
  -- Inside brackets indentation means nothing.
  if lexer.depth = 0 ∧ !lexer.allowsKey then none
  else
    let lexer := if lexer.depth = 0 then lexer.openBlock .blockListStart else lexer
    let lexer ← { lexer with allowsKey := true }.forgetPlace
    return (lexer.push .blockEntry).skip 1

/-- Reads the question mark before a key. -/
def explicitKey (lexer : Lexer) : Option Lexer := do
  if lexer.depth = 0 ∧ !lexer.allowsKey then none
  else
    let lexer := if lexer.depth = 0 then lexer.openBlock .blockObjectStart else lexer
    let lexer ← { lexer with allowsKey := lexer.depth = 0 }.forgetPlace
    return (lexer.push .key).skip 1

/-- Marks what stands at a place as a key, and opens a block there if it is indented deeper. -/
def markKey (lexer : Lexer) (place : KeyPlace) : Lexer :=
  let lexer :=
    { lexer with
      -- The place is used up, whatever stands at it.
      places := lexer.places.filter fun other => other.depth ≠ lexer.depth
      tokens := lexer.tokens.insertIdxIfInBounds place.position .key
      allowsKey := false }
  -- The mark of the block goes in front of the mark of the key.
  if lexer.depth = 0 ∧ lexer.opensBlock place.column then
    let lexer := lexer.enterBlock place.column
    { lexer with tokens := lexer.tokens.insertIdxIfInBounds place.position .blockObjectStart }
  else lexer

/-- Reads a colon before a value. -/
def value (lexer : Lexer) : Option Lexer := do
  -- Without a place the colon has an empty key before it, or one behind a question mark.
  match lexer.places.find? fun place => place.depth = lexer.depth with
  | some place => return ((lexer.markKey place).push .value).skip 1
  | none =>
    if lexer.depth = 0 ∧ !lexer.allowsKey then none
    else
      let lexer := if lexer.depth = 0 then lexer.openBlock .blockObjectStart else lexer
      let lexer ← { lexer with allowsKey := lexer.depth = 0 }.forgetPlace
      return (lexer.push .value).skip 1

/-- Reads something that a key may start with. -/
def keyPart (lexer : Lexer) (read : Cursor → Except TokenFault (Token × Cursor)) :
    Except TokenFault Lexer := do
  let lexer ← wellFormed lexer.savePlace
  let (token, cursor) ← read lexer.cursor
  return { lexer.push token with cursor, allowsKey := false }

/-- The column from which on lines belong to a text in the block at hand. -/
def textIndent (lexer : Lexer) : Nat :=
  match lexer.indent with
  | some indent => indent + 1
  | none => 0

/-- Reads a plain text. A key may come after it if its line has ended. -/
def plain (lexer : Lexer) : Option Lexer := do
  let lexer ← lexer.savePlace
  let (text, lineEnded, cursor) := lexer.cursor.plain (lexer.depth ≠ 0) lexer.textIndent
  return { lexer.push (.scalar text true) with cursor, allowsKey := lineEnded }

/-- Reads a block of lines. -/
def block (lexer : Lexer) (folded : Bool) : Option Lexer := do
  let lexer ← { lexer with allowsKey := true }.forgetPlace
  let (text, cursor) ← lexer.cursor.block folded lexer.textIndent
  return { lexer.push (.scalar text false) with cursor }

/-- Whether a plain text can start here. -/
def startsPlain (lexer : Lexer) : Bool :=
  let c := lexer.cursor.peek
  let special := isSeparator c || "-?:,[]\x7b\x7d#&*!|>\x27\"%@".toList.contains c || c = '\x60'
  !special || (!isSeparator (lexer.cursor.peekAt 1) &&
    (c = '-' || (lexer.depth = 0 && (c = '?' || c = ':'))))

/-- Reads an alias, an anchor, a tag or a text in quotes, by its first character. -/
def labelled (c : Char) (cursor : Cursor) : Except TokenFault (Token × Cursor) :=
  match c with
  | '*' => (wellFormed cursor.anchorName).map fun (name, cursor) => (.alias name, cursor)
  | '&' => (wellFormed cursor.anchorName).map fun (name, cursor) => (.anchor name, cursor)
  | '!' => (wellFormed cursor.tagName).map fun (name, cursor) => (.tag name, cursor)
  | _ => cursor.quoted.map fun (text, cursor) => (.scalar text false, cursor)

/-- Reads a mark, a plain text or a block of lines. -/
def readMark (lexer : Lexer) : Option Lexer :=
  let cursor := lexer.cursor
  -- Marks that need a place on the line are tried before those that do not.
  let c := cursor.peek
  let separated := isSeparator (cursor.peekAt 1)
  let inFlow := lexer.depth ≠ 0
  let atLineStart := cursor.column = 0
  if atLineStart ∧ cursor.atMark "---" then lexer.documentMark .documentStart
  else if atLineStart ∧ cursor.atMark "..." then lexer.documentMark .documentEnd
  else if c = '[' then lexer.openFlow .flowListStart
  else if c = '\x7b' then lexer.openFlow .flowObjectStart
  else if c = ']' then lexer.closeFlow .flowListEnd
  else if c = '\x7d' then lexer.closeFlow .flowObjectEnd
  else if c = ',' then lexer.forgetPlace.bind flowEntry
  else if c = '-' ∧ separated then lexer.blockEntry
  else if c = '?' ∧ (inFlow ∨ separated) then lexer.explicitKey
  else if c = ':' ∧ (inFlow ∨ separated) then lexer.value
  else if c = '|' ∧ !inFlow then lexer.block false
  else if c = '>' ∧ !inFlow then lexer.block true
  else if lexer.startsPlain then lexer.plain
  else none

/-- Reads the token at hand. -/
def readToken (lexer : Lexer) : Except TokenFault Lexer :=
  let c := lexer.cursor.peek
  if c = '%' ∧ lexer.cursor.column = 0 then lexer.directive
  else if "*&!\"\x27".toList.contains c then lexer.keyPart (labelled c)
  else wellFormed lexer.readMark

/-- Goes on by one token, and tells whether the text goes on after it. -/
def step (lexer : Lexer) : Except TokenFault (Lexer × Bool) := do
  -- Blocks are closed by the column of the next token.
  let lexer ← wellFormed (skipGaps lexer.cursor.fuel lexer.skipMark).forgetStale
  if lexer.cursor.atEnd then return (← wellFormed lexer.endContent, false)
  else return (← (lexer.unwind (some lexer.cursor.column)).readToken, true)

/-- The tokens that can get no more marks in front of them. -/
def settled (lexer : Lexer) : List Token :=
  -- The mark of a key may still come to stand at every place that is remembered.
  let count := lexer.places.foldl (fun count place => min count place.position) lexer.tokens.size
  lexer.tokens.toList.take count

/-- Reads tokens to the end of the text, or to a fault in it. -/
def run : Nat → Lexer → Tokens
  | 0, lexer => ⟨lexer.settled, some .malformed⟩
  | fuel + 1, lexer =>
    match lexer.forgetStale with
    | none => ⟨lexer.settled, some .malformed⟩
    | some lexer =>
      match lexer.step with
      | .ok (lexer, true) => run fuel lexer
      | .ok (lexer, false) => ⟨lexer.tokens.toList, none⟩
      -- Nobody has to look as far as the fault to take the tokens that are settled.
      | .error fault => ⟨lexer.settled, some fault⟩

end Lexer

/-- The tokens of a text. -/
def tokensOf (text : String) : Tokens :=
  let chars := text.toList
  if chars.all isAllowed then Lexer.run (chars.length + 2) (.start chars)
  else ⟨[], some .malformed⟩

end Yaml

end Flowchart
