import Flowchart.Json

/-! Writing JSON text in ASCII, on one line or indented. -/

namespace Flowchart

namespace Json

/-- How doubles are spelled in JSON text. -/
def spelling : Decimal.Spelling := ⟨"NaN", "Infinity", false⟩

/-- A hexadecimal digit in lower case. -/
def hexDigit (n : Nat) : Char := Nat.digitChar n

/-- One code unit as an escape of four digits. -/
def escapeUnit (unit : Nat) : String :=
  String.ofList ['\\', 'u', hexDigit (unit / 4096 % 16), hexDigit (unit / 256 % 16),
    hexDigit (unit / 16 % 16), hexDigit (unit % 16)]

/-- A character inside a string: printable ASCII as it is, a few control characters by letter, all
else by its code units. -/
def escapeChar (c : Char) : String :=
  match c with
  | '"' => "\\\""
  | '\\' => "\\\\"
  | '\n' => "\\n"
  | '\r' => "\\r"
  | '\t' => "\\t"
  | '\x08' => "\\b"
  | '\x0c' => "\\f"
  | _ =>
    let code := c.toNat
    if 0x20 ≤ code ∧ code ≤ 0x7E then c.toString
    else if code < 0x10000 then escapeUnit code
    else escapeUnit (0xD800 + (code - 0x10000) / 0x400) ++
      escapeUnit (0xDC00 + (code - 0x10000) % 0x400)

/-- A string in quotes. -/
def quote (text : String) : String :=
  text.toList.foldl (fun written c => written ++ escapeChar c) "\"" ++ "\""

mutual

/-- Appends a value on one line, with a blank after each comma and colon. -/
def appendCompact (written : String) : Json → String
  | .null => written ++ "null"
  | .bool true => written ++ "true"
  | .bool false => written ++ "false"
  | .num value => written ++ value.render spelling
  | .str text => written ++ quote text
  | .arr [] => written ++ "[]"
  | .arr (item :: rest) => appendCompactItems (appendCompact (written ++ "[") item) rest ++ "]"
  | .obj [] => written ++ "\x7b\x7d"
  | .obj ((key, value) :: rest) =>
    appendCompactMembers (appendCompact (written ++ "\x7b" ++ quote key ++ ": ") value) rest
      ++ "\x7d"

/-- Appends the items after the first. -/
def appendCompactItems (written : String) : List Json → String
  | [] => written
  | item :: rest => appendCompactItems (appendCompact (written ++ ", ") item) rest

/-- Appends the members after the first. -/
def appendCompactMembers (written : String) : List (String × Json) → String
  | [] => written
  | (key, value) :: rest =>
    appendCompactMembers (appendCompact (written ++ ", " ++ quote key ++ ": ") value) rest

end

/-- A value on one line. -/
def compact (value : Json) : String := appendCompact "" value

/-- A new line at a depth of two blanks per level. -/
def newline (depth : Nat) : String := String.ofList ('\n' :: List.replicate (2 * depth) ' ')

mutual

/-- Appends a value with each item and member on a line of its own. -/
def appendIndented (depth : Nat) (written : String) : Json → String
  | .arr (item :: rest) =>
    appendIndentedItems depth
      (appendIndented (depth + 1) (written ++ "[" ++ newline (depth + 1)) item) rest
      ++ newline depth ++ "]"
  | .obj ((key, value) :: rest) =>
    appendIndentedMembers depth
      (appendIndented (depth + 1)
        (written ++ "\x7b" ++ newline (depth + 1) ++ quote key ++ ": ") value) rest
      ++ newline depth ++ "\x7d"
  | .arr [] => written ++ "[]"
  | .obj [] => written ++ "\x7b\x7d"
  | .null => written ++ "null"
  | .bool true => written ++ "true"
  | .bool false => written ++ "false"
  | .num value => written ++ value.render spelling
  | .str text => written ++ quote text

/-- Appends the items after the first. -/
def appendIndentedItems (depth : Nat) (written : String) : List Json → String
  | [] => written
  | item :: rest =>
    appendIndentedItems depth
      (appendIndented (depth + 1) (written ++ "," ++ newline (depth + 1)) item) rest

/-- Appends the members after the first. -/
def appendIndentedMembers (depth : Nat) (written : String) : List (String × Json) → String
  | [] => written
  | (key, value) :: rest =>
    appendIndentedMembers depth
      (appendIndented (depth + 1)
        (written ++ "," ++ newline (depth + 1) ++ quote key ++ ": ") value) rest

end

/-- A value over several lines, two blanks per level. -/
def indented (value : Json) : String := appendIndented 0 "" value

end Json

end Flowchart
