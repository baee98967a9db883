import Flowchart.Json.Reader
import Flowchart.Text.Encoding
import Flowchart.Yaml.Cursor
import Flowchart.Yaml.Token

/-! Reading the names that YAML gives to nodes, anchors and tags, and the directives. -/

namespace Flowchart

namespace Yaml

namespace Cursor

/-- The characters that may follow the name of an anchor. -/
def endsAnchor (c : Char) : Bool := isSeparator c || "?:,]\x7d%@".toList.contains c || c = '\x60'

/-- Reads the name of an anchor after its sign. -/
def anchorName (cursor : Cursor) : Option (String × Cursor) :=
  let (name, cursor) := cursor.next.span isWordChar
  if !name.isEmpty && endsAnchor cursor.peek then some (String.ofList name, cursor) else none

/-- The characters that stand for themselves in a tag. -/
def isTagChar (c : Char) : Bool :=
  c.isAlphanum || "-;/?:@&=+$,_.!~*\x27()[]".toList.contains c

/-- Reads the bytes written by percent signs with two digits each. -/
def percentBytes : Nat → Cursor → Option (List UInt8 × Cursor)
  | 0, _ => none
  | fuel + 1, cursor =>
    if cursor.peek = '%' then do
      let high ← Json.hexValue? (cursor.peekAt 1)
      let low ← Json.hexValue? (cursor.peekAt 2)
      let (bytes, cursor) ← percentBytes fuel (cursor.skip 3)
      return (UInt8.ofNat (high * 16 + low) :: bytes, cursor)
    else some ([], cursor)

/-- Reads the characters of a tag, those written by bytes included. -/
def tagChars : Nat → Cursor → Option (List Char × Cursor)
  | 0, _ => none
  | fuel + 1, cursor =>
    let (run, cursor) := cursor.span isTagChar
    if cursor.peek = '%' then do
      let (bytes, cursor) ← percentBytes cursor.fuel cursor
      let text ← (Encoding.decodeBy .utf8 false 0 bytes).toOption
      let (more, cursor) ← tagChars fuel cursor
      return (run ++ text.toList ++ more, cursor)
    else some (run, cursor)

/-- Reads a part of a tag, which is not empty. -/
def tagText (cursor : Cursor) : Option (String × Cursor) := do
  let (chars, cursor) ← cursor.tagChars cursor.fuel
  if chars.isEmpty then none else some (String.ofList chars, cursor)

/-- Reads the handle of a tag: an exclamation mark, or a word between two. -/
def tagHandle (cursor : Cursor) : Option (String × Cursor) :=
  if cursor.peek ≠ '!' then none
  else if cursor.peekAt 1 = ' ' then some ("!", cursor.next)
  else
    let (word, after) := cursor.next.span isWordChar
    if after.peek = '!' then some ("!" ++ String.ofList word ++ "!", after.next) else none

/-- Reads a tag in angle brackets after the opening one. -/
def fullTag (cursor : Cursor) : Option (TagName × Cursor) := do
  let (name, cursor) ← cursor.tagText
  if cursor.peek = '>' then some (⟨none, name⟩, cursor.next) else none

/-- Reads a tag that may have a handle. -/
def shortTag (cursor : Cursor) : Option (TagName × Cursor) := do
  let (word, _) := cursor.next.span fun c => !isGap c
  let (handle, cursor) ← if word.contains '!' then cursor.tagHandle else some ("!", cursor.next)
  let (name, cursor) ← cursor.tagText
  return (⟨some handle, name⟩, cursor)

/-- Reads a tag. -/
def tagName (cursor : Cursor) : Option (TagName × Cursor) := do
  let (tag, cursor) ←
    if cursor.peekAt 1 = '<' then (cursor.skip 2).fullTag
    else if isSeparator (cursor.peekAt 1) then some (⟨none, "!"⟩, cursor.next)
    else cursor.shortTag
  if isGap cursor.peek then some (tag, cursor) else none

/-- Reads a number of a version. -/
def versionNumber (cursor : Cursor) : Except TokenFault (Nat × Cursor) :=
  let (digits, cursor) := cursor.span Char.isDigit
  if digits.isEmpty then .error .malformed
  else if Json.maxDigits < digits.length then .error (.tooManyDigits digits.length)
  else .ok (Decimal.wholeOfDigits digits, cursor)

/-- Reads the version that a directive names. -/
def versionDirective (cursor : Cursor) : Except TokenFault (Directive × Cursor) := do
  let (major, cursor) ← (cursor.dropWhile (· = ' ')).versionNumber
  if cursor.peek ≠ '.' then throw .malformed
  let (_, cursor) ← cursor.next.versionNumber
  if isGap cursor.peek then return (.version major, cursor) else throw .malformed

/-- Reads the handle that a directive defines, and what it is short for. -/
def tagDirective (cursor : Cursor) : Option (Directive × Cursor) := do
  let (handle, cursor) ← (cursor.dropWhile (· = ' ')).tagHandle
  if cursor.peek ≠ ' ' then none
  else
    let (start, cursor) ← (cursor.dropWhile (· = ' ')).tagText
    if isGap cursor.peek then some (.tagStart handle start, cursor) else none

/-- Reads a directive with the rest of its line. -/
def directive (cursor : Cursor) : Except TokenFault (Directive × Cursor) := do
  let (name, cursor) := cursor.next.span isWordChar
  if name.isEmpty || !isGap cursor.peek then throw .malformed
  let (directive, cursor) ←
    if name = "YAML".toList then cursor.versionDirective
    else if name = "TAG".toList then wellFormed cursor.tagDirective
    else pure (.other, cursor.dropWhile fun c => !isLineEnd c)
  return (directive, ← wellFormed cursor.finishLine)

end Cursor

end Yaml

end Flowchart
