import Flowchart.Json

/-! Reading JSON text. Every fault carries the place in the text where it was noticed. -/

namespace Flowchart

namespace Json

/-- What is wrong with a text that is not JSON. -/
inductive Fault where
  | expectingValue
  | expectingName
  | expectingColon
  | expectingComma
  | extraData
  | unterminatedString
  | controlCharacter
  | unknownEscape
  | incompleteUnicodeEscape
  | byteOrderMark
deriving DecidableEq

/-- The wording of a fault. -/
def Fault.message : Fault → String
  | .expectingValue => "Expecting value"
  | .expectingName => "Expecting property name enclosed in double quotes"
  | .expectingColon => "Expecting ':' delimiter"
  | .expectingComma => "Expecting ',' delimiter"
  | .extraData => "Extra data"
  | .unterminatedString => "Unterminated string starting at"
  | .controlCharacter => "Invalid control character at"
  | .unknownEscape => "Invalid \\escape"
  | .incompleteUnicodeEscape => "Invalid \\uXXXX escape"
  | .byteOrderMark => "Unexpected UTF-8 BOM (decode using utf-8-sig)"

/-- Why a text could not be read: a fault at a position counted in characters from zero, or a
whole number with more digits than the reader takes. -/
inductive ReadError where
  | malformed (fault : Fault) (line column position : Nat)
  | tooManyDigits (digits : Nat)
deriving DecidableEq

/-- The wording of a read error. -/
def ReadError.message : ReadError → String
  | .malformed fault line column position =>
    fault.message ++ ": line " ++ toString line ++ " column " ++ toString column ++
      " (char " ++ toString position ++ ")"
  | .tooManyDigits digits =>
    "Exceeds the limit (" ++ toString maxDigits ++
      " digits) for integer string conversion: value has " ++ toString digits ++
      " digits; use sys.set_int_max_str_digits() to increase the limit"

/-- A stop of the reader: a fault with the rest of the text from where it was noticed. -/
inductive Stop where
  | fault (fault : Fault) (rest : List Char)
  | tooManyDigits (digits : Nat)

/-- The blanks between tokens. -/
def isBlank (c : Char) : Bool := c = ' ' || c = '\t' || c = '\n' || c = '\r'

/-- Drops blanks. -/
def skipBlanks (text : List Char) : List Char := text.dropWhile isBlank

/-- The value of a hexadecimal digit. -/
def hexValue? (c : Char) : Option Nat :=
  if '0' ≤ c ∧ c ≤ '9' then some (c.toNat - '0'.toNat)
  else if 'a' ≤ c ∧ c ≤ 'f' then some (c.toNat - 'a'.toNat + 10)
  else if 'A' ≤ c ∧ c ≤ 'F' then some (c.toNat - 'A'.toNat + 10)
  else none

/-- The code unit written by the first four characters of a text. -/
def readUnit? : List Char → Option (Nat × List Char)
  | a :: b :: c :: d :: rest => do
    let a ← hexValue? a
    let b ← hexValue? b
    let c ← hexValue? c
    let d ← hexValue? d
    return (((a * 16 + b) * 16 + c) * 16 + d, rest)
  | _ => none

/-- Whether a code unit opens a surrogate pair. -/
def isHighSurrogate (unit : Nat) : Bool := 0xD800 ≤ unit && unit ≤ 0xDBFF

/-- Whether a code unit closes a surrogate pair. -/
def isLowSurrogate (unit : Nat) : Bool := 0xDC00 ≤ unit && unit ≤ 0xDFFF

/-- The character of a surrogate pair. -/
def pairChar (high low : Nat) : Char :=
  Char.ofNat (0x10000 + (high - 0xD800) * 0x400 + (low - 0xDC00))

/-- The character of a single code unit; a surrogate on its own becomes the replacement
character. -/
def unitChar (unit : Nat) : Char :=
  if isHighSurrogate unit || isLowSurrogate unit then '\uFFFD' else Char.ofNat unit

/-- Reads the rest of a unicode escape, `text` being what follows the letter `u` and `fromLetter`
the text from that letter on. A second escape joins in when the two make a pair, and is left alone
otherwise; it is looked at only when at least one more character follows it. -/
def readUnicodeEscape (fromLetter text : List Char) : Except Stop (Char × List Char) :=
  if (text.drop 4).isEmpty then .error (.fault .incompleteUnicodeEscape fromLetter)
  else match readUnit? text with
    | none => .error (.fault .incompleteUnicodeEscape fromLetter)
    | some (high, rest) =>
      -- A pair needs a whole second escape and one more character after it.
      if isHighSurrogate high ∧ !(rest.drop 6).isEmpty then
        match rest with
        | '\\' :: 'u' :: tail =>
          match readUnit? tail with
          | none => .error (.fault .incompleteUnicodeEscape ('u' :: tail))
          | some (low, after) =>
            if isLowSurrogate low then .ok (pairChar high low, after)
            else .ok (unitChar high, rest)
        | _ => .ok (unitChar high, rest)
      else .ok (unitChar high, rest)

/-- The character of a one letter escape. -/
def simpleEscape? : Char → Option Char
  | '"' => some '"'
  | '\\' => some '\\'
  | '/' => some '/'
  | 'b' => some '\x08'
  | 'f' => some '\x0c'
  | 'n' => some '\n'
  | 'r' => some '\r'
  | 't' => some '\t'
  | _ => none

/-- Reads the characters of a string up to its closing quote. `opening` is the text from the
opening quote on, `read` holds the characters so far in reverse, and `budget` is any list that is
no shorter than the text. -/
def readString (opening : List Char) : (budget read text : List Char) →
    Except Stop (String × List Char)
  | [], _, _ => .error (.fault .unterminatedString opening)
  | _ :: budget, read, text =>
    match text with
    | [] => .error (.fault .unterminatedString opening)
    | '"' :: rest => .ok (String.ofList read.reverse, rest)
    | '\\' :: rest =>
      match rest with
      | [] => .error (.fault .unterminatedString opening)
      | 'u' :: after =>
        match readUnicodeEscape rest after with
        | .error stop => .error stop
        | .ok (c, tail) => readString opening budget (c :: read) tail
      | letter :: after =>
        match simpleEscape? letter with
        | some c => readString opening budget (c :: read) after
        | none => .error (.fault .unknownEscape text)
    | c :: rest =>
      if c ≤ '\x1f' then .error (.fault .controlCharacter text)
      else readString opening budget (c :: read) rest

/-- The digits of a whole number: a lone zero, or digits that start with another. -/
def readWhole (text : List Char) : List Char × List Char :=
  match text with
  | '0' :: rest => (['0'], rest)
  | _ => (text.takeWhile Char.isDigit, text.dropWhile Char.isDigit)

/-- The digits after a point; a point without a digit after it is not part of the number. -/
def readFraction : List Char → List Char × List Char
  | '.' :: rest =>
    let digits := rest.takeWhile Char.isDigit
    if digits = [] then ([], '.' :: rest) else (digits, rest.dropWhile Char.isDigit)
  | text => ([], text)

/-- The power of ten after a letter `e`; without digits it is not part of the number. -/
def readPower (text : List Char) : Option Int × List Char :=
  match text with
  | c :: rest =>
    if c = 'e' ∨ c = 'E' then
      let (negative, digits) := Decimal.splitSign rest
      let power := digits.takeWhile Char.isDigit
      if power = [] then (none, text)
      else
        let size : Int := Decimal.wholeOfDigits power
        (some (if negative then -size else size), digits.dropWhile Char.isDigit)
    else (none, text)
  | [] => (none, text)

/-- Reads a number. A point or a power makes it a double. -/
def readNumber (text : List Char) : Except Stop (Number × List Char) :=
  let (negative, body) := match text with
    | '-' :: rest => (true, rest)
    | _ => (false, text)
  let (whole, rest) := readWhole body
  if whole = [] then .error (.fault .expectingValue text)
  else
    let (fraction, rest) := readFraction rest
    let (power, rest) := readPower rest
    if fraction = [] ∧ power = none then
      -- Only whole numbers are bounded; a double takes any number of digits.
      if maxDigits < whole.length then .error (.tooManyDigits whole.length)
      else
        let size : Int := Decimal.wholeOfDigits whole
        .ok (.int (if negative then -size else size), rest)
    else
      let value := Decimal.ofParts whole fraction (power.getD 0)
      .ok (.float (value.toSignedFloat negative), rest)

/-- The words that stand for values, with what they stand for. -/
def words : List (List Char × Json) :=
  [("null".toList, .null), ("true".toList, .bool true), ("false".toList, .bool false),
    ("NaN".toList, .float (0.0 / 0.0)), ("Infinity".toList, .float (1.0 / 0.0)),
    ("-Infinity".toList, .float (-1.0 / 0.0))]

/-- The value of the word that a text starts with. -/
def readWord? (text : List Char) : Option (Json × List Char) :=
  (words.find? fun word => word.1.isPrefixOf text).map fun word =>
    (word.2, text.drop word.1.length)

mutual

/-- Reads one value at the very start of a text. -/
def readValue : Nat → List Char → Except Stop (Json × List Char)
  | 0, text => .error (.fault .expectingValue text)
  | fuel + 1, text =>
    match text with
    | '"' :: rest => do
      let (value, rest) ← readString text rest [] rest
      return (.str value, rest)
    | '[' :: rest =>
      match skipBlanks rest with
      | ']' :: after => .ok (.arr [], after)
      | start => do
        let (items, rest) ← readItems fuel start
        return (.arr items, rest)
    | '\x7b' :: rest =>
      match skipBlanks rest with
      | '\x7d' :: after => .ok (.obj [], after)
      | start => do
        let (members, rest) ← readMembers fuel [] start
        return (.obj members, rest)
    | _ =>
      match readWord? text with
      | some found => .ok found
      | none => do
        let (value, rest) ← readNumber text
        return (.num value, rest)

/-- Reads the items of a list from the first one to the closing bracket. -/
def readItems : Nat → List Char → Except Stop (List Json × List Char)
  | 0, text => .error (.fault .expectingValue text)
  | fuel + 1, text => do
    let (item, rest) ← readValue fuel text
    match skipBlanks rest with
    | ']' :: after => return ([item], after)
    | ',' :: after =>
      let (items, rest) ← readItems fuel (skipBlanks after)
      return (item :: items, rest)
    | other => .error (.fault .expectingComma other)

/-- Reads the members of an object from the first one to the closing brace. A key that comes again
takes the later value in the earlier place. -/
def readMembers : Nat → Members → List Char → Except Stop (Members × List Char)
  | 0, _, text => .error (.fault .expectingName text)
  | fuel + 1, before, text =>
    match text with
    | '"' :: start => do
      let (key, rest) ← readString text start [] start
      match skipBlanks rest with
      | ':' :: after =>
        let (value, rest) ← readValue fuel (skipBlanks after)
        -- A key that was there keeps its place.
        let members := before.set key value
        match skipBlanks rest with
        | '\x7d' :: after => return (members, after)
        | ',' :: after => readMembers fuel members (skipBlanks after)
        | other => .error (.fault .expectingComma other)
      | other => .error (.fault .expectingColon other)
    | _ => .error (.fault .expectingName text)

end

/-- Reads a value with blanks around it as the whole of a text. -/
def readAll (text : List Char) : Except Stop Json := do
  let (value, rest) ← readValue (2 * text.length + 2) (skipBlanks text)
  match skipBlanks rest with
  | [] => return value
  | extra => .error (.fault .extraData extra)

/-- The line and column, both from one, of the place after the given characters. -/
def place (before : List Char) : Nat × Nat :=
  (before.count '\n' + 1, (before.reverse.takeWhile (· ≠ '\n')).length + 1)

/-- The outcome of reading a text, with the place of a fault. -/
def located (text : List Char) : Except Stop Json → Except ReadError Json
  | .ok value => .ok value
  | .error (.tooManyDigits digits) => .error (.tooManyDigits digits)
  | .error (.fault fault rest) =>
    let position := text.length - rest.length
    let (line, column) := place (text.take position)
    .error (.malformed fault line column position)

/-- Reads a JSON text that was decoded from bytes, so that a mark at its start is no byte order
mark. -/
def readDecoded (text : String) : Except ReadError Json :=
  located text.toList (readAll text.toList)

/-- Reads a JSON text. A byte order mark is a fault. -/
def read (text : String) : Except ReadError Json :=
  let chars := text.toList
  -- The mark belongs to bytes, so a text has none.
  if chars.head? = some '\uFEFF' then located chars (.error (.fault .byteOrderMark chars))
  else located chars (readAll chars)

end Json

end Flowchart
