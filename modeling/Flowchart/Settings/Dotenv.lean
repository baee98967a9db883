/-! Files of environment variables: one `NAME=value` to a line, with comments, quotes, escapes and
references to other variables. -/

namespace Flowchart

namespace Dotenv

/-- Blanks of every kind, line ends included. -/
def isSpace (c : Char) : Bool :=
  let code := c.toNat
  (0x09 ≤ code && code ≤ 0x0D) || (0x1C ≤ code && code ≤ 0x20) || code = 0x85 || code = 0xA0 ||
    code = 0x1680 || (0x2000 ≤ code && code ≤ 0x200A) || code = 0x2028 || code = 0x2029 ||
    code = 0x202F || code = 0x205F || code = 0x3000

/-- Line ends. -/
def isLineEnd (c : Char) : Bool := c = '\r' || c = '\n'

/-- Blanks within a line. -/
def isInline (c : Char) : Bool := isSpace c && !isLineEnd c

/-- The content up to a closing quote and the text after it. What stands after a backslash closes
nothing, and a value that is never closed is none. -/
def untilQuote (mark : Char) : List Char → Option (List Char × List Char)
  | [] => none
  | '\\' :: c :: rest =>
    -- The backslash stays, since not every escape has a meaning.
    (untilQuote mark rest).map fun (content, tail) => ('\\' :: c :: content, tail)
  | c :: rest =>
    if c = mark then some ([], rest)
    else (untilQuote mark rest).map fun (content, tail) => (c :: content, tail)

/-- Replaces the escapes among the given letters. -/
def unescape (letters : List (Char × Char)) : List Char → List Char
  | '\\' :: c :: rest =>
    match letters.find? fun letter => letter.1 == c with
    | some (_, meaning) => meaning :: unescape letters rest
    | none => '\\' :: unescape letters (c :: rest)
  | c :: rest => c :: unescape letters rest
  | [] => []

/-- The escapes between single quotes. -/
def singleEscapes : List (Char × Char) := [('\\', '\\'), ('\x27', '\x27')]

/-- The escapes between double quotes. -/
def doubleEscapes : List (Char × Char) :=
  [('\\', '\\'), ('\x27', '\x27'), ('"', '"'), ('a', '\x07'), ('b', '\x08'), ('f', '\x0c'),
    ('n', '\n'), ('r', '\r'), ('t', '\t'), ('v', '\x0b')]

/-- A value without quotes ends before a blank and a number sign, and loses blanks at its end. -/
def cutComment : List Char → List Char
  | [] => []
  | c :: rest =>
    -- The number sign starts a comment only behind a blank.
    if isSpace c ∧ (rest.dropWhile isSpace).head? = some '#' then []
    else c :: cutComment rest

/-- A list without the blanks at its end. -/
def trimEnd (chars : List Char) : List Char := (chars.reverse.dropWhile isSpace).reverse

/-- Drops the word `export` and the blanks after it. -/
def dropExport (text : List Char) : List Char :=
  let word := "export".toList
  if word.isPrefixOf text then
    let rest := text.drop word.length
    if (rest.head?.map isInline).getD false then rest.dropWhile isInline else text
  else text

/-- The name at the start of a line; a comment has none. A fault is `none` altogether. -/
def readName (text : List Char) : Option (Option String × List Char) :=
  match text with
  | '#' :: _ => some (none, text)
  | '\x27' :: rest =>
    let name := rest.takeWhile (· ≠ '\x27')
    match rest.dropWhile (· ≠ '\x27') with
    | _ :: after => if name = [] then none else some (some (String.ofList name), after)
    | [] => none
  | _ =>
    let inName (c : Char) := c ≠ '=' && c ≠ '#' && !isSpace c
    let name := text.takeWhile inName
    if name = [] then none else some (some (String.ofList name), text.dropWhile inName)

/-- The value after an equals sign, with blanks in front of it or not. -/
def readValue (text : List Char) : Option (String × List Char) :=
  match text.dropWhile isInline with
  | '\x27' :: rest =>
    (untilQuote '\x27' rest).map fun (content, after) =>
      (String.ofList (unescape singleEscapes content), after)
  | '"' :: rest =>
    (untilQuote '"' rest).map fun (content, after) =>
      (String.ofList (unescape doubleEscapes content), after)
  | _ =>
    -- The blanks in front may introduce a comment, so they go last.
    let line := cutComment (text.takeWhile fun c => !isLineEnd c)
    some (String.ofList (trimEnd (line.dropWhile isInline)), text.dropWhile fun c => !isLineEnd c)

/-- Drops a comment, blanks and the line end; anything else left on the line is a fault. -/
def endLine (text : List Char) : Option (List Char) :=
  let text := match text.dropWhile isInline with
    | '#' :: rest => rest.dropWhile fun c => !isLineEnd c
    | _ => text
  match text.dropWhile isInline with
  | [] => some []
  | '\r' :: '\n' :: rest => some rest
  | c :: rest => if isLineEnd c then some rest else none

/-- The binding at the start of a text, if it is well formed, and the text after it. -/
def readBinding (text : List Char) : Option (String × Option String) × List Char :=
  -- A line that cannot be read is passed over as a whole.
  let start := dropExport (text.dropWhile isSpace)
  let skipLine (text : List Char) := (text.dropWhile fun c => !isLineEnd c).drop 1
  match readName start with
  | none => (none, skipLine start)
  | some (name, rest) =>
    let rest := rest.dropWhile isInline
    match rest with
    | '=' :: after =>
      match readValue after with
      | none => (none, skipLine after)
      | some (value, tail) =>
        match endLine tail with
        | some next => (name.map fun name => (name, some value), next)
        | none => (none, skipLine tail)
    | _ =>
      match endLine rest with
      | some next => (name.map fun name => (name, none), next)
      | none => (none, skipLine rest)

/-- Every well formed binding of a text, in order. -/
def readBindings : Nat → List Char → List (String × Option String)
  | 0, _ => []
  | fuel + 1, text =>
    if text.dropWhile isSpace = [] then []
    else
      let (binding, rest) := readBinding text
      binding.toList ++ readBindings fuel rest

/-- What names stand for; a name without a value stands for none. -/
abbrev Bindings := List (String × Option String)

/-- Binds a name, in the place where it was bound before. -/
def bind : Bindings → String → Option String → Bindings
  | [], name, value => [(name, value)]
  | (other, old) :: rest, name, value =>
    if other == name then (other, value) :: rest else (other, old) :: bind rest name value

/-- What a name is bound to by the last binding; an unbound name is `none` altogether. -/
def valueOf (bindings : Bindings) (name : String) : Option (Option String) :=
  (bindings.reverse.find? fun binding => binding.1 == name).map Prod.snd

/-- What a reference comes to: nothing for a name without a value, and the fallback for one that is
not bound. -/
def referred (bindings : Bindings) (name fallback : List Char) : List Char :=
  match valueOf bindings (String.ofList name) with
  | some value => (value.getD "").toList
  | none => fallback

/-- Replaces each reference in braces after a dollar sign by the value of the variable, or by the
fallback given after a colon and a minus sign. -/
def expand (bindings : Bindings) : Nat → List Char → List Char
  | 0, text => text
  | fuel + 1, text =>
    match text with
    | '$' :: '\x7b' :: rest =>
      let inName (c : Char) := c ≠ '\x7d' && c ≠ ':'
      let name := rest.takeWhile inName
      match rest.dropWhile inName with
      | '\x7d' :: after => referred bindings name [] ++ expand bindings fuel after
      | ':' :: '-' :: after =>
        match after.dropWhile (· ≠ '\x7d') with
        | _ :: tail =>
          referred bindings name (after.takeWhile (· ≠ '\x7d')) ++ expand bindings fuel tail
        | [] => '$' :: expand bindings fuel ('\x7b' :: rest)
      | _ => '$' :: expand bindings fuel ('\x7b' :: rest)
    | c :: rest => c :: expand bindings fuel rest
    | [] => []

/-- A text without the byte order mark at its start. -/
def dropMark : List Char → List Char
  | '\uFEFF' :: rest => rest
  | text => text

/-- The variables of a file, given those of the environment. References see the environment and
the bindings before them, the latter first. -/
def read (environment : List (String × String)) (text : String) : Bindings :=
  let text := dropMark text.toList
  let environment : Bindings := environment.map fun binding => (binding.1, some binding.2)
  (readBindings (text.length + 1) text).foldl (fun bindings (name, value) =>
    -- What the file has said so far comes before the environment.
    let expanded := value.map fun value =>
      let chars := value.toList
      String.ofList (expand (environment ++ bindings) (chars.length + 1) chars)
    bind bindings name expanded) []

end Dotenv

end Flowchart
