import Flowchart.Json
import Flowchart.Yaml.Characters
import Flowchart.Yaml.Scalar

/-! Writing values as block style YAML in ASCII, long texts folded near column eighty. -/

namespace Flowchart

namespace Yaml

/-- How doubles are spelled in YAML. -/
def spelling : Decimal.Spelling := ⟨".nan", ".inf", true⟩

/-- The column after which a text is folded at the next blank. -/
def foldColumn : Nat := 80

/-- The blanks that one level of nesting adds. -/
def indentStep : Nat := 2

/-- What is written so far, and where on the line the pen stands. -/
structure Pen where
  written : String
  column : Nat
  /-- The last thing written separates what follows. -/
  afterBlank : Bool
  /-- Only indentation and dashes stand on the line. -/
  atIndent : Bool

namespace Pen

/-- A pen on an empty page. -/
def start : Pen := ⟨"", 0, true, true⟩

/-- Writes a text as it is. -/
def write (pen : Pen) (text : List Char) : Pen :=
  { pen with written := pen.written ++ String.ofList text, column := pen.column + text.length }

/-- Goes to the next line. -/
def breakLine (pen : Pen) : Pen := ⟨pen.written.push '\n', 0, true, true⟩

/-- Goes to an indentation, on a new line unless the pen stands before it on a fresh one. -/
def indentTo (pen : Pen) (indent : Nat) : Pen :=
  -- A list under a dash starts on the line of the dash.
  let fresh := pen.atIndent && pen.column ≤ indent && (pen.column ≠ indent || pen.afterBlank)
  let pen := if fresh then pen else pen.breakLine
  if pen.column < indent then
    { pen.write (List.replicate (indent - pen.column) ' ') with afterBlank := true }
  else pen

/-- Writes a mark, after a blank if one is needed. -/
def mark (pen : Pen) (text : List Char) (needsBlank blankAfter keepsIndent : Bool) : Pen :=
  let pen' := pen.write (if pen.afterBlank || !needsBlank then text else ' ' :: text)
  { pen' with afterBlank := blankAfter, atIndent := pen.atIndent && keepsIndent }

/-- Says that content was written. -/
def inContent (pen : Pen) : Pen := { pen with afterBlank := false, atIndent := false }

end Pen

/-- Characters that need no escape outside the fold of lines. -/
def isPlainAscii (c : Char) : Bool := c = '\n' || (' ' ≤ c && c ≤ '~')

/-- What the ways of writing a text hang on. -/
structure Traits where
  isEmpty : Bool
  isMultiline : Bool
  allowsPlain : Bool
  allowsSingleQuotes : Bool
deriving DecidableEq

/-- Whether the first character of a text, or its place, means something in YAML. -/
def startsWithIndicator (text : List Char) : Bool :=
  "---".toList.isPrefixOf text || "...".toList.isPrefixOf text ||
    match text with
    | [] => false
    | c :: rest =>
      let separated := (rest.head?.map isSeparator).getD true
      "#,[]\x7b\x7d&*!|>\x27\"%@".toList.contains c || c = '\x60' ||
        (separated && (c = '?' || c = ':' || c = '-'))

/-- Whether a colon before a separator, or a number sign after one, stands inside a text. The
character before is given. -/
def hasInnerIndicator : (before : Char) → List Char → Bool
  | _, [] => false
  | before, c :: rest =>
    (c = ':' && (rest.head?.map isSeparator).getD true) || (c = '#' && isSeparator before) ||
      hasInnerIndicator c rest

/-- Whether a character of one kind stands directly before one of another. -/
def hasPair (first second : Char → Bool) : List Char → Bool
  | a :: b :: rest => (first a && second b) || hasPair first second (b :: rest)
  | _ => false

/-- The traits of a text. -/
def traitsOf (text : List Char) : Traits :=
  match text with
  | [] => ⟨true, false, true, true⟩
  | first :: rest =>
    let last := text.getLastD first
    -- Blanks at either end, and everything beyond ASCII, need quotes.
    let isEdge (c : Char) := c = ' ' || isBreak c
    let multiline := text.any isBreak
    let special := !text.all isPlainAscii
    let breakSpace := hasPair isBreak (· = ' ') text
    let spaceBreak := hasPair (· = ' ') isBreak text
    let indicator := startsWithIndicator text || hasInnerIndicator first rest
    { isEmpty := false
      isMultiline := multiline
      allowsPlain := !(isEdge first || isEdge last || breakSpace || spaceBreak || special ||
        multiline || indicator)
      allowsSingleQuotes := !(breakSpace || spaceBreak || special) }

/-- Splits a text into runs of characters that a function does not tell apart. -/
def runs {κ : Type} [BEq κ] (kind : Char → κ) : List Char → List (List Char)
  | [] => []
  | c :: rest =>
    match runs kind rest with
    | [] => [[c]]
    | run :: others =>
      if (run.head?.map kind == some (kind c)) then (c :: run) :: others
      else [c] :: run :: others

/-- Writes a plain text; a single blank past the fold column becomes a new line. -/
def writePlain (pen : Pen) (indent : Nat) (folds : Bool) (text : List Char) : Pen :=
  if text.isEmpty then pen
  else
    let pen := if pen.afterBlank then pen else pen.write [' ']
    (runs (fun c => c == ' ') text).foldl (fun pen run =>
      if run = [' '] ∧ pen.column > foldColumn ∧ folds then (pen.indentTo indent).inContent
      else pen.write run) pen.inContent

/-- The runs that single quotes are concerned with. -/
inductive RunKind where
  | blanks
  | breaks
  | other
deriving BEq

/-- The kind of run a character belongs to. -/
def runKind (c : Char) : RunKind :=
  if c = ' ' then .blanks else if isBreak c then .breaks else .other

/-- Writes the runs of a text in single quotes, `inner` telling whether a run came before. -/
def writeSingleRuns (indent : Nat) (folds : Bool) : (pen : Pen) → (inner : Bool) →
    List (List Char) → Pen
  | pen, _, [] => pen
  | pen, inner, run :: rest =>
    let pen :=
      match run.head?.map runKind with
      | some .blanks =>
        if run.length = 1 ∧ pen.column > foldColumn ∧ folds ∧ inner ∧ !rest.isEmpty then
          pen.indentTo indent
        else pen.write run
      | some .breaks =>
        -- A line end counts twice here, as a single one would read as a blank.
        let pen := if run.head? = some '\n' then pen.breakLine else pen
        (run.foldl (fun pen _ => pen.breakLine) pen).indentTo indent
      | _ => pen.write (run.flatMap fun c => if c = '\x27' then [c, c] else [c])
    writeSingleRuns indent folds pen true rest

/-- Writes a text in single quotes. Line ends are doubled, since a lone one reads as a blank. -/
def writeSingle (pen : Pen) (indent : Nat) (folds : Bool) (text : List Char) : Pen :=
  let pen := pen.mark ['\x27'] true false false
  (writeSingleRuns indent folds pen false (runs runKind text)).mark ['\x27'] false false false

/-- The lowest hexadecimal digits of a number in upper case. -/
def hexDigits : Nat → Nat → List Char
  | 0, _ => []
  | count + 1, n => hexDigits count (n / 16) ++ [(Nat.digitChar (n % 16)).toUpper]

/-- The letters that stand for characters after a backslash. -/
def escapeLetters : List (Char × Char) :=
  [('\x00', '0'), ('\x07', 'a'), ('\x08', 'b'), ('\t', 't'), ('\n', 'n'), ('\x0b', 'v'),
    ('\x0c', 'f'), ('\r', 'r'), ('\x1b', 'e'), ('"', '"'), ('\\', '\\'), ('\x85', 'N'),
    ('\xa0', '_'), ('\u2028', 'L'), ('\u2029', 'P')]

/-- A character behind a backslash. -/
def escape (c : Char) : List Char :=
  match escapeLetters.find? fun letter => letter.1 == c with
  | some letter => ['\\', letter.2]
  | none =>
    if c.toNat ≤ 0xFF then '\\' :: 'x' :: hexDigits 2 c.toNat
    else if c.toNat ≤ 0xFFFF then '\\' :: 'u' :: hexDigits 4 c.toNat
    else '\\' :: 'U' :: hexDigits 8 c.toNat

/-- Folds a line inside double quotes; a blank that comes next is kept by a backslash. -/
def foldDouble (pen : Pen) (indent : Nat) (next : Option Char) : Pen :=
  let pen := ((pen.write ['\\']).indentTo indent).inContent
  if next = some ' ' then pen.write ['\\'] else pen

/-- Writes characters in double quotes. `pending` holds, in reverse, those that are not written
yet, and `position` counts all before. -/
def writeDoubleChars (indent : Nat) (folds : Bool) : (pen : Pen) → (position : Nat) →
    (pending : List Char) → List Char → Pen
  | pen, _, pending, [] => pen.write pending.reverse
  | pen, position, pending, c :: rest =>
    -- The first and the last character are never folded away from the quotes.
    let inside := folds && 0 < position && !rest.isEmpty
    if c = '"' ∨ c = '\\' ∨ ¬ (' ' ≤ c ∧ c ≤ '~') then
      let pen := (pen.write pending.reverse).write (escape c)
      let pen :=
        if inside && pen.column > foldColumn + 1 then foldDouble pen indent rest.head? else pen
      writeDoubleChars indent folds pen (position + 1) [] rest
    else if inside && (c = ' ' || pending.isEmpty) && pen.column + pending.length > foldColumn then
      let pen := foldDouble (pen.write pending.reverse) indent (some c)
      writeDoubleChars indent folds pen (position + 1) [c] rest
    else writeDoubleChars indent folds pen (position + 1) (c :: pending) rest

/-- Writes a text in double quotes. -/
def writeDouble (pen : Pen) (indent : Nat) (folds : Bool) (text : List Char) : Pen :=
  let pen := pen.mark ['"'] true false false
  (writeDoubleChars indent folds pen 0 [] text).mark ['"'] false false false

/-- Writes a text in the plainest way that reads back. A key on one line is not folded. -/
def writeText (pen : Pen) (indent : Nat) (isKey : Bool) (text : String) : Pen :=
  let chars := text.toList
  let traits := traitsOf chars
  -- A text that is spelled like another kind needs quotes.
  if Tag.ofSpelling text = .text ∧ traits.allowsPlain ∧ !(isKey && traits.isMultiline) then
    writePlain pen indent (!isKey) chars
  else if traits.allowsSingleQuotes ∧ !(isKey && traits.isMultiline) then
    writeSingle pen indent (!isKey) chars
  else writeDouble pen indent (!isKey) chars

/-- The longest key that stands on the line of its value. -/
def maxSimpleKey : Nat := 122

/-- Whether a key stands on the line of its value. -/
def isSimpleKey (key : String) : Bool :=
  let traits := traitsOf key.toList
  key.length ≤ maxSimpleKey && !traits.isEmpty && !traits.isMultiline

/-- The indentation inside a value at an indentation; the whole document has none around it. -/
def innerIndent : Option Nat → Nat
  | none => 0
  | some indent => indent + indentStep

/-- Writes a key and the colon after it. -/
def writeKey (pen : Pen) (indent : Nat) (key : String) : Pen :=
  let pen := pen.indentTo indent
  -- Other keys stand behind a question mark, with the colon on a line of its own.
  if isSimpleKey key then
    (writeText pen (indent + indentStep) true key).mark [':'] false false false
  else
    let pen := pen.mark ['?'] true false true
    ((writeText pen (indent + indentStep) false key).indentTo indent).mark [':'] true false true

mutual

/-- Writes a value at an indentation. A list under a key keeps the indentation of the key. -/
def writeValue (pen : Pen) (indent : Option Nat) (underKey : Bool) : Json → Pen
  | .null => writePlain pen (innerIndent indent) true "null".toList
  | .bool true => writePlain pen (innerIndent indent) true "true".toList
  | .bool false => writePlain pen (innerIndent indent) true "false".toList
  | .num value => writePlain pen (innerIndent indent) true (value.render spelling).toList
  | .str text => writeText pen (innerIndent indent) false text
  | .arr [] => (pen.mark ['['] true true false).mark [']'] false false false
  | .obj [] => (pen.mark ['\x7b'] true true false).mark ['\x7d'] false false false
  | .arr (item :: rest) =>
    -- Dashes under a key stand no deeper than the key itself.
    let inner := if underKey && !pen.atIndent then indent.getD 0 else innerIndent indent
    writeItems pen inner (item :: rest)
  | .obj (first :: rest) => writeMembers pen (innerIndent indent) (first :: rest)

/-- Writes the items of a list, each behind a dash. -/
def writeItems (pen : Pen) (indent : Nat) : List Json → Pen
  | [] => pen
  | item :: rest =>
    let pen := (pen.indentTo indent).mark ['-'] true false true
    writeItems (writeValue pen (some indent) false item) indent rest

/-- Writes the members of an object. -/
def writeMembers (pen : Pen) (indent : Nat) : List (String × Json) → Pen
  | [] => pen
  | (key, value) :: rest =>
    writeMembers (writeValue (writeKey pen indent key) (some indent) true value) indent rest

end

/-- A value as a document of its own. -/
def render (value : Json) : String := ((writeValue .start none false value).breakLine).written

end Yaml

end Flowchart
