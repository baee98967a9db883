import Flowchart.Text.Base64
import Flowchart.Yaml.Merge
import Flowchart.Yaml.Numeral
import Flowchart.Yaml.SetOrder
import Flowchart.Yaml.Value

/-! Reading YAML text. Scalars have their values at once, and lists and objects are filled in the
order in which they come up, so that they can hold themselves. -/

namespace Flowchart

namespace Yaml

/-- Why a scalar has no value of the kind it is of. -/
inductive ScalarFault where
  | numeral (fault : NumeralFault)
  /-- A word stands neither for true nor for false. -/
  | notFlag (word : String)
  /-- A text spells no date. -/
  | notMoment
  /-- A date has to be a scalar itself. -/
  | momentInObject
  | noMoment (fault : MomentFault)
  /-- An object stands for itself. -/
  | endless
deriving DecidableEq

/-- Why a text cannot be read. -/
inductive Fault where
  /-- It is not a single document, or something in it has no value here. -/
  | malformed
  | token (fault : TokenFault)
  | scalar (fault : ScalarFault)
deriving DecidableEq

/-- The wording of a fault. -/
def ScalarFault.message : ScalarFault → String
  | .numeral fault => fault.message
  | .notFlag word => Text.quoted word
  | .notMoment => "Not a date"
  | .momentInObject => "Not a date"
  | .noMoment fault => fault.message
  | .endless => "maximum recursion depth exceeded"

/-- The wording of a fault. -/
def Fault.message : Fault → String
  | .malformed => TokenFault.malformed.message
  | .token fault => fault.message
  | .scalar fault => fault.message

/-- The flag that a word stands for, in any letter case. -/
def flagOf (text : String) : Except ScalarFault Bool :=
  let word := Text.lowercase text
  if ["yes", "true", "on"].contains word then .ok true
  else if ["no", "false", "off"].contains word then .ok false
  else .error (.notFlag word)

/-- The moment that a text spells, whether or not a line break follows it. -/
def momentOf (text : String) : Except ScalarFault Moment :=
  let chars := text.toList
  let chars := if chars.getLast? = some '\n' then chars.dropLast else chars
  match readMoment? chars with
  | some moment => moment.check.mapError .noMoment
  | none => .error .notMoment

/-- The bytes that a text in base 64 stands for. -/
def bytesOf (text : String) : Except Fault (List UInt8) :=
  if text.toList.all fun c => c.toNat < 0x80 then
    match Base64.decode? text with
    | some bytes => .ok bytes.toList
    | none => .error .malformed
  else .error .malformed

/-- The value of a double that a text spells at a place. -/
def doubleValue (place : Nat) (text : String) (x : Float) : Value :=
  if x.isNaN then .notNumber (if Numeral.namesUndefined text then none else some place)
  else .number (.float x)

/-- The value of a scalar node with a number and a text. -/
def scalarValue (number : Nat) (node : Node) (text : String) : Except Fault Value :=
  match node.tag with
  | .null => .ok .null
  | .flag => ((flagOf text).map Value.flag).mapError .scalar
  | .whole =>
    ((Numeral.wholeOf text).map fun value => Value.number (.int value)).mapError fun fault =>
      .scalar (.numeral fault)
  | .double =>
    ((Numeral.doubleOf text).map (doubleValue number text)).mapError fun fault =>
      .scalar (.numeral fault)
  | .binary => (bytesOf text).map Value.bytes
  | .moment =>
    -- An object can stand for scalars of all other kinds.
    if node.isObject then .error (.scalar .momentInObject)
    else ((momentOf text).map Value.moment).mapError .scalar
  | .text => .ok (.text text)
  | _ => .error .malformed

/-- The text of a scalar, or of the scalar that an object stands for. The fuel bounds how many
objects stand for one another. -/
def scalarText (nodes : Array Node) : (fuel : Nat) → (number : Nat) → Except Fault String
  | 0, _ => .error (.scalar .endless)
  | fuel + 1, number =>
    match nodeAt nodes number with
    | .scalar _ text => .ok text
    | .object _ members =>
      match members.find? fun (key, _) => (nodeAt nodes key).tag = .fallback with
      | some (_, value) => scalarText nodes fuel value
      | none => .error .malformed
    | .list _ _ => .error .malformed

/-- Whether values of a tag hold others. -/
def Tag.isHolder (tag : Tag) : Bool := [.list, .pairs, .set, .object].contains tag

/-- The values of some nodes of a document. A list or an object has its value before it is filled,
and those that wait to be filled stand in a queue. -/
structure Assembly where
  nodes : Array Node
  /-- No object has more merge keys than all objects have members. -/
  bound : Nat
  values : Array (Option Value)
  contents : Array Content
  waiting : Array Nat

namespace Assembly

/-- Nodes without any values. -/
def start (nodes : Array Node) : Assembly where
  nodes := nodes
  bound := memberCount nodes + 1
  values := nodes.map fun _ => none
  contents := nodes.map fun _ => default
  waiting := #[]

/-- The value of a node. -/
def value (assembly : Assembly) (number : Nat) : Except Fault (Value × Assembly) :=
  match assembly.values.getD number none with
  | some value => .ok (value, assembly)
  | none => do
    let node := nodeAt assembly.nodes number
    let value ←
      if node.tag.isHolder then pure (.held number)
      -- A tag that no value has is refused whatever the node holds.
      else if node.tag = .other ∨ node.tag = .merge ∨ node.tag = .fallback then throw .malformed
      else do
        let text ← scalarText assembly.nodes (assembly.nodes.size + 1) number
        scalarValue number node text
    let waiting := if node.tag.isHolder then assembly.waiting.push number else assembly.waiting
    return (value,
      { assembly with values := assembly.values.setIfInBounds number (some value), waiting })

/-- The values of a list of nodes, one after the other. -/
def valuesOf (assembly : Assembly) : List Nat → Except Fault (List Value × Assembly)
  | [] => .ok ([], assembly)
  | number :: rest => do
    let (value, assembly) ← assembly.value number
    let (values, assembly) ← assembly.valuesOf rest
    return (value :: values, assembly)

/-- The pair that an object of one member stands for. -/
def pairOf (assembly : Assembly) (number : Nat) : Except Fault (Value × Assembly) :=
  match nodeAt assembly.nodes number with
  | .object _ [(key, value)] => do
    let (key, assembly) ← assembly.value key
    let (value, assembly) ← assembly.value value
    return (.pair key value, assembly)
  | _ => .error .malformed

/-- The pairs that a list of objects stands for. -/
def pairsOf (assembly : Assembly) : List Nat → Except Fault (List Value × Assembly)
  | [] => .ok ([], assembly)
  | number :: rest => do
    let (pair, assembly) ← assembly.pairOf number
    let (pairs, assembly) ← assembly.pairsOf rest
    return (pair :: pairs, assembly)

/-- Puts a value under a key: in the place of the old one, or else at the end. -/
def putMember : List (Value × Value) → Value → Value → List (Value × Value)
  | [], key, value => [(key, value)]
  | (k, v) :: rest, key, value =>
    if k.isSame key then (k, value) :: rest else (k, v) :: putMember rest key value

/-- Adds members to those before them. -/
def membersOf (assembly : Assembly) (before : List (Value × Value)) :
    List (Nat × Nat) → Except Fault (List (Value × Value) × Assembly)
  | [] => .ok (before, assembly)
  | (key, value) :: rest => do
    let (key, assembly) ← assembly.value key
    -- A list or an object cannot be a key.
    if !key.isFixed then throw .malformed
    let (value, assembly) ← assembly.value value
    assembly.membersOf (putMember before key value) rest

/-- The members of an object after merging. -/
def mergedMembers (assembly : Assembly) (number : Nat) :
    Except Fault (List (Value × Value) × Assembly) :=
  match nodeAt assembly.nodes number with
  | .object _ _ =>
    match mergeFrom assembly.bound [] number assembly.nodes with
    | some nodes => { assembly with nodes }.membersOf [] (nodeAt nodes number).members
    | none => .error .malformed
  | _ => .error .malformed

/-- The values of a set in the order it lists them. -/
def setValues (values : List Value) : List Value :=
  let numbered := values.mapM fun value => value.number?.map fun number => (number, value)
  match numbered with
  | some entries => SetOrder.arrange entries
  -- Values of other kinds stand as they were given.
  | none => values

/-- What a node holds. A set holds the keys of its members. -/
def content (assembly : Assembly) (number : Nat) : Except Fault (Content × Assembly) := do
  let node := nodeAt assembly.nodes number
  match node.tag, node with
  | .list, .list _ items =>
    let (items, assembly) ← assembly.valuesOf items
    return (.list items, assembly)
  | .pairs, .list _ items =>
    let (pairs, assembly) ← assembly.pairsOf items
    return (.list pairs, assembly)
  | .set, _ =>
    let (members, assembly) ← assembly.mergedMembers number
    return (.list (setValues (members.map Prod.fst)), assembly)
  | .object, _ =>
    let (members, assembly) ← assembly.mergedMembers number
    return (.object members, assembly)
  | _, _ => throw .malformed

/-- Fills every list and object that waits, from a place of the queue on. No node waits twice, so
their number bounds the fuel. -/
def fill : (fuel : Nat) → (next : Nat) → Assembly → Except Fault Assembly
  | 0, _, assembly => .ok assembly
  | fuel + 1, next, assembly =>
    match assembly.waiting[next]? with
    | none => .ok assembly
    | some number => do
      let (content, assembly) ← assembly.content number
      let contents := assembly.contents.setIfInBounds number content
      fill fuel (next + 1) { assembly with contents }

end Assembly

/-- The value of a document. -/
def Composition.reading (composition : Composition) : Except Fault Reading := do
  let (value, assembly) ← (Assembly.start composition.nodes).value composition.content
  let assembly ← Assembly.fill (composition.nodes.size + 1) 0 assembly
  return ⟨assembly.contents, value⟩

/-- Reads a text that holds one document. -/
def read (text : String) : Except Fault Reading := do
  let composition ← (Composition.ofTokens (tokensOf text)).mapError .token
  composition.reading

end Yaml

end Flowchart
