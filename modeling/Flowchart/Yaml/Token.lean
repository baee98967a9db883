import Flowchart.Json.Reader

/-! The tokens of YAML text. -/

namespace Flowchart

namespace Yaml

/-- A line that says something about the document after it. -/
inductive Directive where
  | version (major : Nat)
  /-- Tags that start with a handle are short for ones that start otherwise. -/
  | tagStart (handle start : String)
  | other
deriving DecidableEq

/-- A tag as written. Without a handle it stands in full. -/
structure TagName where
  handle : Option String
  name : String
deriving DecidableEq

/-- A token. Blocks have marks for their start and end, which come from indentation alone. -/
inductive Token where
  | directive (directive : Directive)
  | documentStart
  | documentEnd
  | blockListStart
  | blockObjectStart
  | blockEnd
  | flowListStart
  | flowListEnd
  | flowObjectStart
  | flowObjectEnd
  | blockEntry
  | flowEntry
  | key
  | value
  | alias (name : String)
  | anchor (name : String)
  | tag (name : TagName)
  | scalar (text : String) (isPlain : Bool)
deriving DecidableEq

/-- Why a text cannot be split into tokens. -/
inductive TokenFault where
  | malformed
  /-- An escape has a code beyond the last character. -/
  | noCharacter
  /-- An escape has a code beyond the largest whole number of thirty-two bits. -/
  | codeTooLarge
  /-- A number of a version has more digits than are read. -/
  | tooManyDigits (digits : Nat)
deriving DecidableEq

/-- The wording of a fault. -/
def TokenFault.message : TokenFault → String
  | .malformed => "Not a YAML document"
  | .noCharacter => "chr() arg not in range(0x110000)"
  | .codeTooLarge => "Python int too large to convert to C int"
  | .tooManyDigits digits => (Json.ReadError.tooManyDigits digits).message

/-- What was read, or a text that is malformed. -/
def wellFormed {α : Type} : Option α → Except TokenFault α
  | some read => .ok read
  | none => .error .malformed

/-- The tokens of a text, and the fault after the last of them if the text goes on with one. -/
structure Tokens where
  known : List Token
  fault : Option TokenFault
deriving DecidableEq

namespace Tokens

/-- The token that comes next; none at the end of the text. -/
def next? (tokens : Tokens) : Except TokenFault (Option Token) :=
  match tokens.known, tokens.fault with
  | token :: _, _ => .ok (some token)
  | [], none => .ok none
  -- A fault counts only once all tokens before it are taken.
  | [], some fault => .error fault

/-- The tokens after the first one. -/
def rest (tokens : Tokens) : Tokens := { tokens with known := tokens.known.tail }

/-- The tokens after a certain one, if that one comes next. -/
def after? (tokens : Tokens) (token : Token) : Except TokenFault (Option Tokens) := do
  return if (← tokens.next?) = some token then some tokens.rest else none

end Tokens

end Yaml

end Flowchart
