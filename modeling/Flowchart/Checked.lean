import Flowchart.Json.Equality
import Flowchart.Text.Blank

/-! Reading values against a shape. A reader goes on after a fault, so that the answer lists every
issue in the value, in the order of the shape. Values may be of any type that can be looked at. -/

namespace Flowchart

/-- One step from a value into a part of it. -/
inductive PathStep where
  | key (name : String)
  /-- A key that is a whole number and no text. -/
  | number (value : Int)
  | index (position : Nat)
deriving DecidableEq

/-- The first whole number that does not fit into 64 bits with a sign. -/
def wordBound : Int := Int.ofNat (Nat.pow 2 63)

/-- The step to a member under a whole number. One that does not fit is shown instead, if it can be
written at all. -/
def PathStep.ofWhole (value : Int) : PathStep :=
  if -wordBound ≤ value ∧ value < wordBound then .number value
  else .key (if Json.hasTooManyDigits value then "<unprintable int object>" else toString value)

/-- How a part of a value fails to have the shape asked for. -/
inductive Mismatch where
  | missing
  | notText
  /-- Bytes were given for a text, and they are not the code of one. -/
  | notEncoded
  | emptyText
  | notList
  | notObject
  /-- An object was asked for that stands for a record of the given name. -/
  | notRecord (name : String)
  | notOneOf (choices : List String)
  | notNumber
  | notNumberText
  | notFlag
  | notFlagText
  /-- The parts are well shaped, but break a rule about them together. -/
  | rule (text : String)
deriving DecidableEq

/-- A fault in a value with the way to the part it concerns. -/
structure Issue where
  path : List PathStep
  mismatch : Mismatch
deriving DecidableEq

/-- The choices of an enumeration in words. -/
def describeChoices (choices : List String) : String :=
  let marked := choices.map fun choice => "'" ++ choice ++ "'"
  -- Commas stand between all but the last two.
  match marked.reverse with
  | [] => ""
  | [only] => only
  | last :: before => String.intercalate ", " before.reverse ++ " or " ++ last

namespace Mismatch

/-- A short fixed code for the kind of mismatch. -/
def code : Mismatch → String
  | missing => "missing"
  | notText => "string_type"
  | notEncoded => "string_unicode"
  | emptyText => "string_too_short"
  | notList => "list_type"
  | notObject => "dict_type"
  | notRecord _ => "model_type"
  | notOneOf _ => "enum"
  | notNumber => "float_type"
  | notNumberText => "float_parsing"
  | notFlag => "bool_type"
  | notFlagText => "bool_parsing"
  | rule _ => "value_error"

/-- The wording of a mismatch. -/
def message : Mismatch → String
  | missing => "Field required"
  | notText => "Input should be a valid string"
  | notEncoded => "Input should be a valid string, unable to parse raw data as a unicode string"
  | emptyText => "String should have at least 1 character"
  | notList => "Input should be a valid list"
  | notObject => "Input should be a valid dictionary"
  | notRecord name => "Input should be a valid dictionary or instance of " ++ name
  | notOneOf choices => "Input should be " ++ describeChoices choices
  | notNumber => "Input should be a valid number"
  | notNumberText => "Input should be a valid number, unable to parse string as a number"
  | notFlag => "Input should be a valid boolean"
  | notFlagText => "Input should be a valid boolean, unable to interpret input"
  | rule text => "Value error, " ++ text

end Mismatch

/-- A step as text. -/
def PathStep.text : PathStep → String
  | .key name => name
  | .number value => toString value
  | .index position => toString position

/-- An issue in one line: the way to the part, and what is wrong with it. -/
def Issue.line (issue : Issue) : String :=
  let way := String.intercalate "." (issue.path.map PathStep.text)
  if way = "" then issue.mismatch.message else way ++ ": " ++ issue.mismatch.message

/-- Issues in words, one to a line. -/
def describeIssues (issues : List Issue) : String :=
  String.intercalate "\n" (issues.map Issue.line)

/-- A value read, or every issue found in it. -/
abbrev Checked (α : Type) := Except (List Issue) α

namespace Checked

/-- A single issue with the value as a whole. -/
def fault {α : Type} (mismatch : Mismatch) : Checked α := .error [⟨[], mismatch⟩]

/-- The same outcome for a part that is reached by one more step. -/
def within {α : Type} (step : PathStep) : Checked α → Checked α
  | .ok value => .ok value
  | .error issues => .error (issues.map fun issue => { issue with path := step :: issue.path })

/-- Both of two outcomes, with the issues of the first before those of the second. -/
def both {α β : Type} : Checked α → Checked β → Checked (α × β)
  | .ok a, .ok b => .ok (a, b)
  | .error first, .error second => .error (first ++ second)
  | .error first, .ok _ => .error first
  | .ok _, .error second => .error second

/-- A record to be built from parts, before any part is there. -/
def build {α : Type} (record : α) : Checked α := .ok record

/-- Hands one more part to a record that waits for it. Parts are named in the order in which their
issues are listed. -/
def part {α β : Type} (value : Checked α) (record : Checked (α → β)) : Checked β :=
  (both record value).map fun pair => pair.1 pair.2

/-- Every outcome of a list. -/
def all {α : Type} : List (Checked α) → Checked (List α)
  | [] => .ok []
  | first :: rest => (both first (all rest)).map fun pair => pair.1 :: pair.2

end Checked

/-- The key of a member: the step to the member, and the text that the key stands for. -/
structure MemberKey where
  step : PathStep
  text : Except Mismatch String

/-- What a value shows of itself to a reader. -/
inductive View (V : Type) where
  | null
  | flag (value : Bool)
  | number (value : Number)
  | text (value : String)
  /-- Bytes, with the text that they are the code of. -/
  | bytes (text : Option String)
  /-- A date or a time. -/
  | moment
  | list (items : List V)
  /-- An object: the value under a name, and all members in order. -/
  | object (get : String → Option V) (members : List (MemberKey × V))

/-- Values that can be looked at, gone through, and written as JSON. -/
class Readable (V : Type) where
  view : V → View V
  /-- What a value holds: the items of a list, the characters of a text, the keys of an object. -/
  items? : V → Option (List V)
  /-- Whether a value can be a key. -/
  isFixed : V → Bool
  written : V → Except Unwritable Json

/-- Whether a value does not count as absent, as null, false, zero and everything empty do. -/
def Readable.isTruthy {V : Type} [Readable V] (value : V) : Bool :=
  match view value with
  | .null => false
  | .flag value => value
  | .number value => !value.isZero
  | .text text => text ≠ ""
  | .bytes text => text ≠ some ""
  | .moment => true
  | .list items => !items.isEmpty
  | .object _ members => !members.isEmpty

/-- The key of a member that is a text. -/
def MemberKey.ofText (name : String) : MemberKey := ⟨.key name, .ok name⟩

/-- What a JSON value shows. -/
def Json.view : Json → View Json
  | .null => .null
  | .bool value => .flag value
  | .num value => .number value
  | .str value => .text value
  | .arr items => .list items
  | .obj members =>
    .object (Json.Members.get? members) (members.map fun (key, value) => (.ofText key, value))

instance : Readable Json := ⟨Json.view, Json.items?, Json.isFixed, .ok⟩

/-- A JSON value counts as absent whichever way it is looked at. -/
theorem isTruthy_json (value : Json) : Readable.isTruthy value = value.isTruthy := by
  -- Both views of an object and of a list are empty together.
  cases value with
  | obj members => cases members <;> rfl
  | _ => rfl

/-- Reads a value against a shape. -/
abbrev Shape (V α : Type) := V → Checked α

namespace Shape

variable {V : Type} [Readable V]

/-- A text, or bytes that are the code of one. -/
def text : Shape V String := fun value =>
  match Readable.view value with
  | .text value => .ok value
  | .bytes (some value) => .ok value
  | .bytes none => .fault .notEncoded
  | _ => .fault .notText

/-- A text of one character at least. -/
def nonemptyText : Shape V String := fun value => do
  let value ← text value
  if value = "" then .fault .emptyText else .ok value

/-- The words for true and false, in any letter case. -/
def flagOfWord? (word : String) : Option Bool :=
  -- Blanks around a word are not taken away.
  let word := word.toLower
  if ["0", "off", "f", "false", "n", "no"].contains word then some false
  else if ["1", "on", "t", "true", "y", "yes"].contains word then some true
  else none

/-- The whole number a number stands for, if it fits into 64 bits with a sign. -/
def wordSized? : Number → Option Int
  | .int value => if -wordBound ≤ value ∧ value < wordBound then some value else none
  | .float x =>
    match Binary64.ofFloat? x with
    | none => none
    | some value =>
      let (numerator, denominator) := value.toFraction
      -- Only a double without a fraction can stand for a flag.
      if numerator % denominator = 0 then
        let whole := numerator / denominator
        if -wordBound < whole ∧ whole < wordBound then some whole else none
      else none

/-- The flag that a word stands for. -/
def flagOfText (word : String) : Checked Bool :=
  match flagOfWord? word with
  | some value => .ok value
  | none => .fault .notFlagText

/-- A flag: true or false, zero or one, or a word for either. -/
def flag : Shape V Bool := fun value =>
  match Readable.view value with
  | .flag value => .ok value
  | .number value =>
    match wordSized? value with
    | some 0 => .ok false
    | some 1 => .ok true
    | some _ => .fault .notFlagText
    | none => .fault .notFlag
  | .text word => flagOfText word
  | .bytes (some word) => flagOfText word
  | .bytes none => .fault .notFlagText
  | _ => .fault .notFlag

/-- Whether two underscores stand side by side. -/
def hasDoubleUnderscore : List Char → Bool
  | '_' :: '_' :: _ => true
  | _ :: rest => hasDoubleUnderscore rest
  | [] => false

/-- The number written in a text: with blanks around it, or else with single underscores
inside. -/
def doubleOfText? (chars : List Char) : Option Float :=
  match Decimal.read? (Text.trimBlanks chars) with
  | some x => some x
  | none =>
    -- Underscores stand between digits, one at a time.
    if chars.head? = some '_' ∨ chars.getLast? = some '_' ∨ hasDoubleUnderscore chars then none
    else Decimal.read? (chars.filter (· ≠ '_'))

/-- The double that a text writes. -/
def doubleOfText (text : String) : Checked Float :=
  match doubleOfText? text.toList with
  | some x => .ok x
  | none => .fault .notNumberText

/-- A double: any number that a double can hold, a flag, or a number in a text. -/
def double : Shape V Float := fun value =>
  match Readable.view value with
  | .flag value => .ok (if value then 1.0 else 0.0)
  | .number value =>
    match value.toFloat with
    | .ok x => .ok x
    | .error _ => .fault .notNumber
  | .text text => doubleOfText text
  | .bytes (some text) => doubleOfText text
  | .bytes none => .fault .notNumberText
  | _ => .fault .notNumber

/-- Null, or a value of a shape. -/
def optional {α : Type} (shape : Shape V α) : Shape V (Option α) := fun value =>
  match Readable.view value with
  | .null => .ok none
  | _ => (shape value).map some

/-- A list of values of a shape. -/
def listOf {α : Type} (shape : Shape V α) : Shape V (List α) := fun value =>
  match Readable.view value with
  | .list items =>
    .all (items.mapIdx fun position item => (shape item).within (.index position))
  | _ => .fault .notList

/-- The name of the step that stands for a key, and not for what is under it. -/
def keyMark : String := "[key]"

/-- A member of an object whose value has a shape. -/
def member {α : Type} (shape : Shape V α) (key : MemberKey) (value : V) : Checked (String × α) :=
  -- The key is judged before the value.
  let name : Checked String := match key.text with
    | .ok name => .ok name
    | .error mismatch => .within (.key keyMark) (.fault mismatch)
  .within key.step (.both name (shape value))

/-- An object whose members all have a shape. -/
def objectOf {α : Type} (shape : Shape V α) : Shape V (List (String × α)) := fun value =>
  match Readable.view value with
  | .object _ members => .all (members.map fun (key, value) => member shape key value)
  | _ => .fault .notObject

/-- Any object. -/
def object : Shape V (List (String × V)) := objectOf .ok

/-- Every JSON object is one, with the members it has. -/
theorem object_obj (members : Json.Members) : Shape.object (Json.obj members) = .ok members := by
  -- Each key is a text and each value is taken as it is.
  have each (rest : Json.Members) : Checked.all ((rest.map fun (key, value) =>
      (MemberKey.ofText key, value)).map fun (key, value) => member .ok key value) =
      (.ok rest : Checked Json.Members) := by
    induction rest with
    | nil => rfl
    | cons first rest ih =>
      simp only [List.map_cons, Checked.all, ih]
      rfl
  exact each members

/-- One of a few named choices. -/
def oneOf {α : Type} (choices : List (String × α)) : Shape V α := fun value =>
  let refusal : Checked α := .fault (.notOneOf (choices.map Prod.fst))
  match text value with
  | .ok name =>
    match choices.find? fun choice => choice.1 == name with
    | some choice => .ok choice.2
    | none => refusal
  | .error _ => refusal

/-- An object that stands for a record, read through the values under its names; members that the
record does not have are passed over. -/
def record {α : Type} (name : String) (fields : (String → Option V) → Checked α) : Shape V α :=
  fun value =>
    match Readable.view value with
    | .object get _ => fields get
    | _ => .fault (.notRecord name)

/-- A field of a record, with the name it goes by in the record at hand. -/
structure Found (V : Type) where
  name : String
  value : Option V

/-- The field of a name. -/
def field (get : String → Option V) (name : String) : Found V := ⟨name, get name⟩

/-- The field of a name, or else of a second one. -/
def either (get : String → Option V) (name other : String) : Found V :=
  match get name, get other with
  | none, some value => ⟨other, some value⟩
  | value, _ => ⟨name, value⟩

/-- A field that has to be present. -/
def required {α : Type} (shape : Shape V α) (found : Found V) : Checked α :=
  .within (.key found.name) <|
    match found.value with
    | some value => shape value
    | none => .fault .missing

/-- A field with a fallback for when it is absent. -/
def withDefault {α : Type} (shape : Shape V α) (fallback : α) (found : Found V) : Checked α :=
  .within (.key found.name) <|
    match found.value with
    | some value => shape value
    | none => .ok fallback

end Shape

end Flowchart
