import Flowchart.Yaml.Scalar
import Flowchart.Yaml.Token.Lexer

/-! The structure of a YAML document: scalars, lists and objects. Nodes are known by their numbers,
so that an alias can stand for a node that it lies in. -/

namespace Flowchart

namespace Yaml

/-- A node of a document. What it holds is given by the numbers of other nodes. -/
inductive Node where
  | scalar (tag : Tag) (text : String)
  | list (tag : Tag) (items : List Nat)
  | object (tag : Tag) (members : List (Nat × Nat))
deriving DecidableEq, Inhabited

namespace Node

/-- The tag of a node. -/
def tag : Node → Tag
  | scalar tag _ => tag
  | list tag _ => tag
  | object tag _ => tag

/-- A node that is not there. -/
def missing : Node := .scalar .null ""

/-- The tokens still to be read, the nodes so far, and the names that are known with the nodes that
they stand for. -/
structure State where
  tokens : Tokens
  nodes : Array Node
  anchors : List (String × Nat)
  handles : List (String × String)

/-- The state before the content of a document is read. -/
def State.start (tokens : Tokens) (handles : List (String × String)) : State :=
  ⟨tokens, #[], [], handles⟩

/-- The handles that need no directive. -/
def standardHandles : List (String × String) := [("!", "!"), ("!!", Tag.standardStart)]

/-- The text a handle is short for. -/
def expandHandle (handles : List (String × String)) (handle : String) : Option String :=
  ((handles ++ standardHandles).find? fun entry => entry.1 == handle).map Prod.snd

/-- A tag in full. -/
def fullName (handles : List (String × String)) (tag : TagName) : Option String :=
  match tag.handle with
  | none => some tag.name
  | some handle => (expandHandle handles handle).map (· ++ tag.name)

/-- Reads an anchor, if one comes next. -/
def anchor? (tokens : Tokens) : Except TokenFault (Option String × Tokens) := do
  match ← tokens.next? with
  | some (.anchor anchor) => return (some anchor, tokens.rest)
  | _ => return (none, tokens)

/-- Reads a tag, if one comes next. -/
def tag? (tokens : Tokens) : Except TokenFault (Option TagName × Tokens) := do
  match ← tokens.next? with
  | some (.tag tag) => return (some tag, tokens.rest)
  | _ => return (none, tokens)

/-- What stands before a node: an anchor, a tag, or both in either order. -/
def labels (tokens : Tokens) : Except TokenFault (Option String × Option TagName × Tokens) := do
  match ← anchor? tokens with
  | (some anchor, tokens) =>
    let (tag, tokens) ← tag? tokens
    return (some anchor, tag, tokens)
  | (none, tokens) =>
    match ← tag? tokens with
    | (some tag, tokens) =>
      let (anchor, tokens) ← anchor? tokens
      return (anchor, some tag, tokens)
    | (none, tokens) => return (none, none, tokens)

/-- A scalar under the tag that is written before it. A lone exclamation mark asks for the spelling
to be looked at, even of a text in quotes. -/
def ofScalar (tag : Option String) (isPlain : Bool) (text : String) : Node :=
  match tag with
  | none => .scalar (if isPlain then .ofSpelling text else .text) text
  | some "!" => .scalar (.ofSpelling text) text
  | some name => .scalar (.ofName name) text

/-- The tag of a list or an object, given the one it has for its form. -/
def formTag (form : Tag) : Option String → Tag
  | none | some "!" => form
  | some name => .ofName name

/-- The token that comes next; none at the end of the text. -/
def State.next? (state : State) : Except TokenFault (Option Token) := state.tokens.next?

/-- The state after the token that comes next. -/
def State.skip (state : State) : State := { state with tokens := state.tokens.rest }

/-- The state after a certain token, if that one comes next. -/
def State.after? (state : State) (token : Token) : Except TokenFault (Option State) := do
  return if (← state.next?) = some token then some state.skip else none

/-- The state after a token that has to come next. -/
def State.expect (state : State) (token : Token) : Except TokenFault State := do
  wellFormed (← state.after? token)

/-- Whether one of some tokens comes next; the end of the text counts as none of them. -/
def State.at (state : State) (tokens : List Token) : Except TokenFault Bool := do
  return (← state.next?).any fun next => tokens.contains next

/-- Adds a node. -/
def State.add (state : State) (node : Node) : Nat × State :=
  (state.nodes.size, { state with nodes := state.nodes.push node })

/-- Puts a node in the place of another. -/
def State.put (state : State) (number : Nat) (node : Node) : State :=
  { state with nodes := state.nodes.setIfInBounds number node }

/-- Introduces an anchor, which must be new. -/
def State.announce (state : State) (anchor : Option String) (number : Nat) : Option State :=
  match anchor with
  | none => some state
  | some name =>
    -- An anchor may be used only once in a document.
    if state.anchors.any fun entry => entry.1 == name then none
    else some { state with anchors := (name, number) :: state.anchors }

/-- The node that an alias stands for. -/
def State.resolve (state : State) (name : String) : Option Nat :=
  (state.anchors.find? fun entry => entry.1 == name).map Prod.snd

mutual

/-- Reads a node. Outside of brackets it may be a block, and as the value of an object a list whose
dashes are not indented. -/
def read (inBlock atKey : Bool) : Nat → State → Except TokenFault (Nat × State)
  | 0, _ => .error .malformed
  | fuel + 1, state => do
    match ← state.next? with
    -- An alias stands for a whole node and has no labels of its own.
    | some (.alias name) => return (← wellFormed (state.resolve name), state.skip)
    | _ =>
      let (anchor, tag, tokens) ← labels state.tokens
      let tag ← match tag with
        | none => pure none
        | some tag => (wellFormed (fullName state.handles tag)).map some
      -- An anchor is looked at together with the first token behind it.
      let _ ← tokens.next?
      -- The node has its number before its content is read, which may lead back to it.
      let (number, state) := { state with tokens }.add missing
      let state ← wellFormed (state.announce anchor number)
      let (node, state) ← readContent inBlock atKey (anchor.isSome || tag.isSome) tag fuel state
      return (number, state.put number node)

/-- Reads what a node consists of. Nothing at all will do if it has an anchor or a tag. -/
def readContent (inBlock atKey labelled : Bool) (tag : Option String) :
    Nat → State → Except TokenFault (Node × State)
  | 0, _ => .error .malformed
  | fuel + 1, state => do
    let empty : Except TokenFault (Node × State) :=
      if labelled then .ok (ofScalar tag true "", state) else .error .malformed
    match ← state.next? with
    | some (.scalar text isPlain) => return (ofScalar tag isPlain text, state.skip)
    | some .flowListStart =>
      let (items, state) ← readFlowItems true fuel state.skip
      return (.list (formTag .list tag) items, state)
    | some .flowObjectStart =>
      let (members, state) ← readFlowMembers true fuel state.skip
      return (.object (formTag .object tag) members, state)
    | some .blockEntry =>
      if atKey then
        let (items, state) ← readItems fuel state
        return (.list (formTag .list tag) items, state)
      else empty
    | some .blockListStart =>
      if inBlock then
        let (items, state) ← readItems fuel state.skip
        return (.list (formTag .list tag) items, ← state.expect .blockEnd)
      else empty
    | some .blockObjectStart =>
      if inBlock then
        let (members, state) ← readMembers fuel state.skip
        return (.object (formTag .object tag) members, ← state.expect .blockEnd)
      else empty
    | _ => empty

/-- Reads a node, or nothing when one of some tokens comes next. -/
def readUnless (stops : List Token) (inBlock atKey : Bool) :
    Nat → State → Except TokenFault (Nat × State)
  | 0, _ => .error .malformed
  | fuel + 1, state => do
    if ← state.at stops then return state.add missing
    else read inBlock atKey fuel state

/-- Reads entries behind dashes as long as there are any. -/
def readItems : Nat → State → Except TokenFault (List Nat × State)
  | 0, _ => .error .malformed
  | fuel + 1, state => do
    -- Each dash opens one entry, which may be empty.
    match ← state.after? .blockEntry with
    | none => return ([], state)
    | some state =>
      let (item, state) ←
        readUnless [.blockEntry, .key, .value, .blockEnd] true false fuel state
      let (items, state) ← readItems fuel state
      return (item :: items, state)

/-- Reads the value after a colon; without a colon there is none. -/
def readValue (stops : List Token) (inBlock : Bool) : Nat → State → Except TokenFault (Nat × State)
  | 0, _ => .error .malformed
  | fuel + 1, state => do
    match ← state.after? .value with
    | none => return state.add missing
    | some state => readUnless stops inBlock inBlock fuel state

/-- Reads keys with their values as long as there are any. -/
def readMembers : Nat → State → Except TokenFault (List (Nat × Nat) × State)
  | 0, _ => .error .malformed
  | fuel + 1, state => do
    let stops : List Token := [.key, .value, .blockEnd]
    match ← state.after? .key with
    | none => return ([], state)
    | some state =>
      let (key, state) ← readUnless stops true true fuel state
      let (value, state) ← readValue stops true fuel state
      let (members, state) ← readMembers fuel state
      return ((key, value) :: members, state)

/-- Reads the entries of a list in brackets to the closing one. An entry with a colon is an object
of one member. -/
def readFlowItems (isFirst : Bool) : Nat → State → Except TokenFault (List Nat × State)
  | 0, _ => .error .malformed
  | fuel + 1, state => do
    match ← state.after? .flowListEnd with
    | some state => return ([], state)
    | none =>
      -- A comma stands between entries, and one more may stand before the end.
      let state ← if isFirst then pure state else state.expect .flowEntry
      match ← state.after? .key with
      | some state =>
        let stops : List Token := [.value, .flowEntry, .flowListEnd]
        let (key, state) ← readUnless stops false false fuel state
        let (value, state) ← readValue [.flowEntry, .flowListEnd] false fuel state
        let (item, state) := state.add (.object .object [(key, value)])
        let (items, state) ← readFlowItems false fuel state
        return (item :: items, state)
      | none =>
        match ← state.after? .flowListEnd with
        | some state => return ([], state)
        | none =>
          let (item, state) ← read false false fuel state
          let (items, state) ← readFlowItems false fuel state
          return (item :: items, state)

/-- Reads the members of an object in braces to the closing one. A key may go without a value. -/
def readFlowMembers (isFirst : Bool) : Nat → State → Except TokenFault (List (Nat × Nat) × State)
  | 0, _ => .error .malformed
  | fuel + 1, state => do
    match ← state.after? .flowObjectEnd with
    | some state => return ([], state)
    | none =>
      let state ← if isFirst then pure state else state.expect .flowEntry
      match ← state.after? .key with
      | some state =>
        let stops : List Token := [.value, .flowEntry, .flowObjectEnd]
        let (key, state) ← readUnless stops false false fuel state
        let (value, state) ← readValue [.flowEntry, .flowObjectEnd] false fuel state
        let (members, state) ← readFlowMembers false fuel state
        return ((key, value) :: members, state)
      | none =>
        match ← state.after? .flowObjectEnd with
        | some state => return ([], state)
        | none =>
          let (key, state) ← read false false fuel state
          let (value, state) := state.add missing
          let (members, state) ← readFlowMembers false fuel state
          return ((key, value) :: members, state)

end

/-- Reads the directives of a document. The version is named once at most, and so is every
handle. -/
def readDirectives (hasVersion : Bool) (handles : List (String × String)) : Nat → Tokens →
    Except TokenFault (List (String × String) × Tokens)
  | 0, _ => .error .malformed
  | fuel + 1, tokens => do
    match ← tokens.next? with
    | some (.directive (.version major)) =>
      -- A second version and any other major number are faults.
      if hasVersion || major ≠ 1 then throw .malformed
      else readDirectives true handles fuel tokens.rest
    | some (.directive (.tagStart handle start)) =>
      if handles.any fun entry => entry.1 == handle then throw .malformed
      else readDirectives hasVersion (handles ++ [(handle, start)]) fuel tokens.rest
    | some (.directive .other) => readDirectives hasVersion handles fuel tokens.rest
    | _ => return (handles, tokens)

/-- Goes past the marks for the end of a document. -/
def skipEnds : Nat → Tokens → Except TokenFault Tokens
  | 0, _ => .error .malformed
  | fuel + 1, tokens => do
    match ← tokens.after? .documentEnd with
    | some tokens => skipEnds fuel tokens
    | none => return tokens

end Node

/-- The nodes of a document, and the number of the one that is its content. -/
structure Composition where
  nodes : Array Node
  content : Nat

namespace Composition

/-- A document without content. -/
def missing : Composition := ⟨#[Node.missing], 0⟩

/-- More steps than reading some tokens takes. -/
def fuelFor (tokens : Tokens) : Nat := 4 * tokens.known.length + 8

/-- The directives of a document and the mark of its start, read together. -/
def readStart (tokens : Tokens) : Except TokenFault (List (String × String) × Tokens) := do
  let (handles, tokens) ← Node.readDirectives false [] (fuelFor tokens) tokens
  return (handles, ← wellFormed (← tokens.after? .documentStart))

/-- Sees that no other document follows. -/
def finish (tokens : Tokens) : Except TokenFault Unit := do
  let tokens ← Node.skipEnds (fuelFor tokens) tokens
  match ← tokens.next? with
  | none => return
  | some _ =>
    -- The start of the other document is read before it is refused.
    let _ ← readStart tokens
    throw .malformed

/-- Reads the content of a document, and sees that nothing follows it. -/
def ofState (state : Node.State) : Except TokenFault Composition := do
  let (content, state) ← Node.read true false (fuelFor state.tokens) state
  finish state.tokens
  return ⟨state.nodes, content⟩

/-- The content of the only document of a text; an empty text has none. -/
def ofTokens (tokens : Tokens) : Except TokenFault Composition := do
  match ← tokens.next? with
  | none => return missing
  | some (.directive _) | some .documentStart =>
    let (handles, tokens) ← readStart tokens
    match ← tokens.next? with
    | none | some (.directive _) | some .documentStart | some .documentEnd =>
      finish tokens
      return missing
    | some _ => ofState (.start tokens handles)
  | some _ => ofState (.start tokens [])

end Composition

end Yaml

end Flowchart
