/-! Texts without the sequences that steer a terminal, and with one character to a line end. -/

namespace Flowchart

namespace Text

/-- The character that starts a sequence for a terminal. -/
def escapeSign : Char := '\x1b'

/-- Whether a character is part of the parameters of a sequence. -/
def isParameter (c : Char) : Bool := '0' ≤ c && c ≤ '?'

/-- Whether a character may stand between the parameters of a sequence and its last character. -/
def isIntermediate (c : Char) : Bool := ' ' ≤ c && c ≤ '/'

/-- Whether a character may be the last one of a sequence. -/
def endsSequence (c : Char) : Bool := '@' ≤ c && c ≤ '~'

/-- What follows a sequence for a terminal after its start sign, if there is a whole one. -/
def afterSequence? (text : List Char) : Option (List Char) :=
  match text with
  | '[' :: rest =>
    match (rest.dropWhile isParameter).dropWhile isIntermediate with
    | last :: after => if endsSequence last then some after else none
    | [] => none
  | _ => none

/-- A text without sequences for a terminal. The fuel bounds the length. -/
def dropSequences : (fuel : Nat) → List Char → List Char
  | 0, text => text
  | _, [] => []
  | fuel + 1, c :: rest =>
    -- A start sign without a whole sequence behind it stays.
    match if c = escapeSign then afterSequence? rest else none with
    | some after => dropSequences fuel after
    | none => c :: dropSequences fuel rest

/-- A text in which a carriage return before a line feed is left out. -/
def joinLineEnds : List Char → List Char
  | '\r' :: '\n' :: rest => '\n' :: joinLineEnds rest
  | c :: rest => c :: joinLineEnds rest
  | [] => []

/-- A text as it is printed where no terminal reads it. -/
def plain (text : String) : String :=
  let chars := text.toList
  String.ofList (joinLineEnds (dropSequences (chars.length + 1) chars))

end Text

end Flowchart
