import Flowchart.Checked
import Flowchart.Json.Display
import Flowchart.Json.Writer
import Flowchart.Text.Encoding
import Flowchart.Yaml.Moment

/-! The values of YAML documents. Lists and objects are known by their places, since they can hold
themselves. -/

namespace Flowchart

namespace Yaml

/-- A value of a document. -/
inductive Value where
  | null
  | flag (value : Bool)
  | number (value : Number)
  /-- What is not a number: the one that goes by a name of its own, or one that came up at a
  place. -/
  | notNumber (place : Option Nat)
  | text (value : String)
  | bytes (content : List UInt8)
  | moment (value : Moment)
  | pair (first second : Value)
  /-- The list or object at a place. -/
  | held (place : Nat)
deriving DecidableEq, Inhabited

/-- What a list or an object holds. -/
inductive Content where
  | list (items : List Value)
  | object (members : List (Value × Value))
deriving DecidableEq, Inhabited

/-- A value with the lists and objects of its document. -/
structure Reading where
  contents : Array Content
  value : Value

namespace Value

/-- A double that is not a number. -/
def undefined : Number := .float (0.0 / 0.0)

/-- The number that a value is equal to. -/
def number? : Value → Option Number
  | number value => some value
  | flag value => some (.int (if value then 1 else 0))
  | _ => none

/-- Whether two values are the same as keys. -/
def isSame (a b : Value) : Bool :=
  match a.number?, b.number? with
  | some x, some y => x.sameValue y
  | none, none =>
    match a, b with
    | moment x, moment y => x.isSame y
    -- What is not a number is the same only as itself.
    | a, b => a == b
  | _, _ => false

/-- Whether a value can be a key. -/
def isFixed : Value → Bool
  | held _ => false
  | pair first second => first.isFixed && second.isFixed
  | _ => true

/-- Bytes as shown. -/
def describeBytes (content : List UInt8) : String :=
  let chars := content.map fun byte => Char.ofNat byte.toNat
  let mark := Text.quotationMark chars
  let shown (c : Char) : List Char :=
    -- Bytes beyond ASCII are shown by their codes.
    if c.toNat < 0x7F then Text.showChar mark c else '\\' :: 'x' :: Text.hexDigits 2 c.toNat
  String.ofList ('b' :: mark :: chars.flatMap shown ++ [mark])

/-- A value as shown, unless it is a text. -/
def describe : Value → String
  | flag value => (Json.bool value).inspect
  | number value => (Json.num value).inspect
  | notNumber _ => (Json.num undefined).inspect
  | bytes content => describeBytes content
  | moment value => value.describe
  | _ => Json.null.inspect

/-- The step to the member under a key. -/
def step (key : Value) : PathStep :=
  match key, key.number? with
  | text name, _ => .key name
  | _, some (.int value) => .ofWhole value
  | key, _ => .key key.describe

/-- The text that bytes are the code of. -/
def textOfBytes (content : List UInt8) : Except Encoding.Fault String :=
  Encoding.decodeBy .utf8 false 0 content

/-- The key of a member. -/
def memberKey (key : Value) : MemberKey :=
  let name : Except Mismatch String := match key with
    | text name => .ok name
    | bytes content => (textOfBytes content).mapError fun _ => .notEncoded
    | _ => .error .notText
  ⟨key.step, name⟩

/-- The text of bytes in JSON. -/
def writtenBytes (content : List UInt8) : Except Unwritable String :=
  (textOfBytes content).mapError .notEncoded

/-- The text that a key has in JSON. -/
def writtenKey : Value → Except Unwritable String
  | flag value => .ok (Json.bool value).compact
  | number (.int value) =>
    if Json.hasTooManyDigits value then .error .tooManyDigits else .ok (toString value)
  | number (.float x) => .ok (if x.isFinite then (Json.float x).inspect else Json.null.inspect)
  | text name => .ok name
  | bytes content => writtenBytes content
  | moment value => .ok value.text
  -- What is left has no text but that of null.
  | _ => .ok Json.null.inspect

mutual

/-- A value as JSON, given the lists and objects that it lies in. The fuel bounds the depth. -/
def write (contents : Array Content) : (fuel : Nat) → (around : List Nat) → Value →
    Except Unwritable Json
  | 0, _, _ => .error .circular
  | fuel + 1, around, value =>
    match value with
    | null => .ok .null
    | flag value => .ok (.bool value)
    | number (.int value) =>
      if Json.hasTooManyDigits value then .error .tooManyDigits else .ok (.int value)
    | number value => .ok (.num value)
    | notNumber _ => .ok (.num undefined)
    | text value => .ok (.str value)
    | bytes content => (writtenBytes content).map Json.str
    | moment value => .ok (.str value.text)
    | pair first second => do
      return .arr [← write contents fuel around first, ← write contents fuel around second]
    | held place =>
      if around.contains place then .error .circular
      else writeContent contents fuel (place :: around) (contents.getD place default)

/-- A list or an object as JSON. Of several members with a key in JSON, the last value counts. -/
def writeContent (contents : Array Content) : (fuel : Nat) → (around : List Nat) → Content →
    Except Unwritable Json
  | 0, _, _ => .error .circular
  | fuel + 1, around, content =>
    match content with
    | .list items => do
      return .arr (← items.mapM fun item => write contents fuel around item)
    | .object members => do
      let members ← members.mapM fun (key, value) => do
        return (← writtenKey key, ← write contents fuel around value)
      return .obj (Json.Members.merge [] members)

end

end Value

namespace Reading

/-- Another value of the same document. -/
def other (reading : Reading) (value : Value) : Reading := ⟨reading.contents, value⟩

/-- What stands at a place. -/
def content (reading : Reading) (place : Nat) : Content := reading.contents.getD place default

/-- What a value shows of itself. -/
def view (reading : Reading) : View Reading :=
  match reading.value with
  | .null => .null
  | .flag value => .flag value
  | .number value => .number value
  | .notNumber _ => .number Value.undefined
  | .text value => .text value
  | .bytes content => .bytes (Value.textOfBytes content).toOption
  | .moment _ => .moment
  | .pair first second => .list [reading.other first, reading.other second]
  | .held place =>
    match reading.content place with
    | .list items => .list (items.map reading.other)
    | .object members =>
      let get (name : String) : Option Reading :=
        (members.find? fun (key, _) => key == .text name).map fun (_, value) => reading.other value
      .object get (members.map fun (key, value) => (key.memberKey, reading.other value))

/-- The values that a value holds. -/
def items? (reading : Reading) : Option (List Reading) :=
  match reading.value with
  | .text value => some (value.toList.map fun c => reading.other (.text c.toString))
  | .bytes content =>
    some (content.map fun byte => reading.other (.number (.int byte.toNat)))
  | .pair first second => some [reading.other first, reading.other second]
  | .held place =>
    match reading.content place with
    | .list items => some (items.map reading.other)
    | .object members => some (members.map fun (key, _) => reading.other key)
  | _ => none

/-- A value as JSON. -/
def written (reading : Reading) : Except Unwritable Json :=
  -- Below every list or object lies at most one pair and another list or object.
  reading.value.write reading.contents (4 * reading.contents.size + 4) []

end Reading

instance : Readable Reading where
  view := Reading.view
  items? := Reading.items?
  isFixed reading := reading.value.isFixed
  written := Reading.written

end Yaml

end Flowchart
