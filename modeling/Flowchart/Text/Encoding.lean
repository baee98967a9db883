/-! Texts from bytes: UTF-8, and UTF-16 and UTF-32 in either byte order. A fault names the bytes it
was found at. -/

namespace Flowchart

namespace Encoding

/-- The ways of writing a text as bytes. -/
inductive Codec where
  | utf8
  | utf16 (bigEndian : Bool)
  | utf32 (bigEndian : Bool)
deriving DecidableEq

/-- The name of a codec. -/
def Codec.name : Codec → String
  | .utf8 => "utf-8"
  | .utf16 false => "utf-16-le"
  | .utf16 true => "utf-16-be"
  | .utf32 false => "utf-32-le"
  | .utf32 true => "utf-32-be"

/-- Why bytes are no text. -/
inductive Reason where
  | invalidStart
  | invalidContinuation
  | unexpectedEnd
  | truncated
  | notInRange
  /-- The bytes are faulty in a way that is not told. -/
  | invalid
deriving DecidableEq

/-- The wording of a reason. -/
def Reason.message : Reason → String
  | .invalidStart => "invalid start byte"
  | .invalidContinuation => "invalid continuation byte"
  | .unexpectedEnd => "unexpected end of data"
  | .truncated => "truncated data"
  | .notInRange => "code point not in range(0x110000)"
  | .invalid => "invalid utf-8"

/-- A fault at `count` bytes from `position` on, the first of which is `byte`. -/
structure Fault where
  codec : Codec
  reason : Reason
  position : Nat
  count : Nat
  byte : UInt8
deriving DecidableEq

/-- The wording of a fault. -/
def Fault.message (fault : Fault) : String :=
  let hex := String.ofList
    [Nat.digitChar (fault.byte.toNat / 16), Nat.digitChar (fault.byte.toNat % 16)]
  let place :=
    if fault.count = 1 then
      "byte 0x" ++ hex ++ " in position " ++ toString fault.position
    else
      "bytes in position " ++ toString fault.position ++ "-" ++
        toString (fault.position + fault.count - 1)
  "'" ++ fault.codec.name ++ "' codec can't decode " ++ place ++ ": " ++ fault.reason.message

/-- A fault at the start of the given bytes. -/
def faultAt (codec : Codec) (reason : Reason) (position count : Nat) (bytes : List UInt8) :
    Fault :=
  ⟨codec, reason, position, count, bytes.headD 0⟩

/-- How many bytes follow a first byte, and the bounds of the second byte. -/
def followers? (first : UInt8) : Option (Nat × UInt8 × UInt8) :=
  if first < 0xC2 then none
  else if first < 0xE0 then some (1, 0x80, 0xBF)
  else if first = 0xE0 then some (2, 0xA0, 0xBF)
  else if first = 0xED then some (2, 0x80, 0x9F)
  else if first < 0xF0 then some (2, 0x80, 0xBF)
  else if first = 0xF0 then some (3, 0x90, 0xBF)
  else if first < 0xF4 then some (3, 0x80, 0xBF)
  else if first = 0xF4 then some (3, 0x80, 0x8F)
  else none

/-- The leading bytes of a list that continue a character, at most as many as are owed. Only the
first of them has bounds of its own. -/
def continuation : Nat → (low high : UInt8) → List UInt8 → List UInt8
  | 0, _, _, _ => []
  | _ + 1, _, _, [] => []
  | owed + 1, low, high, byte :: rest =>
    if low ≤ byte && byte ≤ high then byte :: continuation owed 0x80 0xBF rest else []

/-- The code point of a first byte and the bytes that continue it. -/
def codePoint (first : UInt8) (tail : List UInt8) : Nat :=
  let lead := match tail.length with
    | 0 => first.toNat
    | 1 => first.toNat % 0x20
    | 2 => first.toNat % 0x10
    | _ => first.toNat % 0x08
  tail.foldl (fun code byte => code * 0x40 + byte.toNat % 0x40) lead

/-- The character of a code point; a surrogate on its own becomes the replacement character. -/
def charOf (code : Nat) : Char :=
  if 0xD800 ≤ code ∧ code ≤ 0xDFFF then '\uFFFD' else Char.ofNat code

/-- What follows a surrogate that is written in three bytes. -/
def afterSurrogate? : List UInt8 → Option (List UInt8)
  | 0xED :: second :: third :: rest =>
    if 0xA0 ≤ second ∧ second ≤ 0xBF ∧ 0x80 ≤ third ∧ third ≤ 0xBF then some rest else none
  | _ => none

/-- Reads UTF-8 from a position on; the characters read so far are in reverse. Surrogates on their
own may be let through. -/
def decodeUtf8 (surrogates : Bool) : Nat → (position : Nat) → (read : List Char) → List UInt8 →
    Except Fault (List Char)
  | 0, _, read, _ => .ok read.reverse
  | fuel + 1, position, read, bytes =>
    match bytes with
    | [] => .ok read.reverse
    | first :: rest =>
      if first < 0x80 then
        decodeUtf8 surrogates fuel (position + 1) (Char.ofNat first.toNat :: read) rest
      else if let (true, some rest) := (surrogates, afterSurrogate? bytes) then
        decodeUtf8 surrogates fuel (position + 3) (charOf 0xD800 :: read) rest
      else match followers? first with
        | none => .error (faultAt .utf8 .invalidStart position 1 bytes)
        | some (owed, low, high) =>
          let tail := continuation owed low high rest
          -- A tail that is too short was cut off by the end or by a wrong byte.
          if tail.length = owed then
            decodeUtf8 surrogates fuel (position + owed + 1)
              (Char.ofNat (codePoint first tail) :: read) (rest.drop owed)
          else if rest.length = tail.length then
            .error (faultAt .utf8 .unexpectedEnd position (tail.length + 1) bytes)
          else .error (faultAt .utf8 .invalidContinuation position (tail.length + 1) bytes)

/-- The number written by bytes in one order. -/
def unit (bigEndian : Bool) (bytes : List UInt8) : Nat :=
  (if bigEndian then bytes else bytes.reverse).foldl (fun n byte => n * 0x100 + byte.toNat) 0

/-- Reads UTF-16 from a position on. -/
def decodeUtf16 (bigEndian : Bool) : Nat → (position : Nat) → (read : List Char) →
    List UInt8 → Except Fault (List Char)
  | 0, _, read, _ => .ok read.reverse
  | fuel + 1, position, read, bytes =>
    match bytes with
    | [] => .ok read.reverse
    | [_] => .error (faultAt (.utf16 bigEndian) .truncated position 1 bytes)
    | a :: b :: rest =>
      -- A surrogate without its partner counts as one character.
      let high := unit bigEndian [a, b]
      if 0xD800 ≤ high ∧ high ≤ 0xDBFF then
        match rest with
        | c :: d :: after =>
          let low := unit bigEndian [c, d]
          if 0xDC00 ≤ low ∧ low ≤ 0xDFFF then
            let code := 0x10000 + (high - 0xD800) * 0x400 + (low - 0xDC00)
            decodeUtf16 bigEndian fuel (position + 4) (Char.ofNat code :: read) after
          else decodeUtf16 bigEndian fuel (position + 2) (charOf high :: read) rest
        | _ => decodeUtf16 bigEndian fuel (position + 2) (charOf high :: read) rest
      else decodeUtf16 bigEndian fuel (position + 2) (charOf high :: read) rest

/-- Reads UTF-32 from a position on. -/
def decodeUtf32 (bigEndian : Bool) : Nat → (position : Nat) → (read : List Char) →
    List UInt8 → Except Fault (List Char)
  | 0, _, read, _ => .ok read.reverse
  | fuel + 1, position, read, bytes =>
    match bytes with
    | [] => .ok read.reverse
    | a :: b :: c :: d :: rest =>
      let code := unit bigEndian [a, b, c, d]
      if code < 0x110000 then
        decodeUtf32 bigEndian fuel (position + 4) (charOf code :: read) rest
      else .error (faultAt (.utf32 bigEndian) .notInRange position 4 bytes)
    | _ => .error (faultAt (.utf32 bigEndian) .truncated position bytes.length bytes)

/-- Reads bytes by a codec, positions counted from `position`. In UTF-8, surrogates on their own are
let through only if asked for. -/
def decodeBy (codec : Codec) (surrogates : Bool) (position : Nat) (bytes : List UInt8) :
    Except Fault String :=
  let chars := match codec with
    | .utf8 => decodeUtf8 surrogates (bytes.length + 1) position [] bytes
    | .utf16 bigEndian => decodeUtf16 bigEndian (bytes.length + 1) position [] bytes
    | .utf32 bigEndian => decodeUtf32 bigEndian (bytes.length + 1) position [] bytes
  chars.map String.ofList

/-- The codec and start of a text whose form has to be guessed: a byte order mark decides, and
without one the places of zero bytes, since a JSON text starts with ASCII characters. Positions in
UTF-8 are counted after a mark, the others with it. -/
def guess (bytes : List UInt8) : Codec × Nat × List UInt8 :=
  match bytes with
  | 0x00 :: 0x00 :: 0xFE :: 0xFF :: rest => (.utf32 true, 4, rest)
  | 0xFF :: 0xFE :: 0x00 :: 0x00 :: rest => (.utf32 false, 4, rest)
  | 0xFE :: 0xFF :: rest => (.utf16 true, 2, rest)
  | 0xFF :: 0xFE :: rest => (.utf16 false, 2, rest)
  | 0xEF :: 0xBB :: 0xBF :: rest => (.utf8, 0, rest)
  | [a, b] =>
    if a = 0 then (.utf16 true, 0, bytes)
    else if b = 0 then (.utf16 false, 0, bytes)
    else (.utf8, 0, bytes)
  | a :: b :: c :: d :: _ =>
    if a = 0 then (if b ≠ 0 then .utf16 true else .utf32 true, 0, bytes)
    else if b = 0 then
      (if c ≠ 0 || d ≠ 0 then .utf16 false else .utf32 false, 0, bytes)
    else (.utf8, 0, bytes)
  | _ => (.utf8, 0, bytes)

/-- Reads bytes in the form they are guessed to have. -/
def decodeGuessed (bytes : ByteArray) : Except Fault String :=
  let (codec, position, rest) := guess bytes.toList
  decodeBy codec true position rest

/-- Line ends of every kind become the newline character. -/
def unifyLineEnds : List Char → List Char
  | '\r' :: '\n' :: rest => '\n' :: unifyLineEnds rest
  | '\r' :: rest => '\n' :: unifyLineEnds rest
  | c :: rest => c :: unifyLineEnds rest
  | [] => []

/-- Reads the bytes of a text file in UTF-8. -/
def decodeFile (bytes : ByteArray) : Except Fault String :=
  -- Positions of faults are those of the bytes, so line ends are changed last.
  (decodeBy .utf8 false 0 bytes.toList).map fun text => String.ofList (unifyLineEnds text.toList)

end Encoding

end Flowchart
