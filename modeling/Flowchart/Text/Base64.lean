/-! Bytes written in base 64, four digits to three bytes. -/

namespace Flowchart

namespace Base64

/-- The value of a digit. -/
def digit? (c : Char) : Option Nat :=
  if 'A' ≤ c ∧ c ≤ 'Z' then some (c.toNat - 'A'.toNat)
  else if 'a' ≤ c ∧ c ≤ 'z' then some (c.toNat - 'a'.toNat + 26)
  else if '0' ≤ c ∧ c ≤ '9' then some (c.toNat - '0'.toNat + 52)
  else if c = '+' then some 62
  else if c = '/' then some 63
  else none

/-- The character that fills up the last group of digits. -/
def filler : Char := '='

/-- Takes in one digit: the bits held back so far give a byte as soon as there are eight. -/
def push (bytes : List UInt8) (held count digit : Nat) : List UInt8 × Nat × Nat :=
  let held := held * 64 + digit
  if count = 0 then (bytes, held, 6)
  else
    let count := count - 2
    (UInt8.ofNat (held / Nat.pow 2 count) :: bytes, held % Nat.pow 2 count, count)

/-- Reads digits, given the bytes so far, the bits held back and their count, and the fillers since
the last digit. Characters of other kinds are passed over. A group that fillers complete is the
last one, and without fillers no group may stay open. -/
def read (bytes : List UInt8) (held count fillers : Nat) : List Char → Option (List UInt8)
  | [] => if count = 0 then some bytes else none
  | c :: rest =>
    if c = filler then
      -- Six bits held back stand for one digit, which no number of fillers completes.
      if count = 4 && fillers = 1 || count = 2 then some bytes
      else read bytes held count (if count = 4 then fillers + 1 else fillers) rest
    else match digit? c with
      | none => read bytes held count fillers rest
      | some digit =>
        let (bytes, held, count) := push bytes held count digit
        read bytes held count 0 rest

/-- The bytes that a text stands for, if it is complete. -/
def decode? (text : String) : Option ByteArray :=
  (read [] 0 0 0 text.toList).map fun bytes => ⟨bytes.reverse.toArray⟩

end Base64

end Flowchart
