import Flowchart.Number
import Flowchart.Text.Encoding

/-! JSON values. Numbers keep their kind and objects keep the order of their members. -/

namespace Flowchart

/-- A JSON value. -/
inductive Json where
  | null
  | bool (value : Bool)
  | num (value : Number)
  | str (value : String)
  | arr (items : List Json)
  | obj (members : List (String × Json))
deriving Inhabited

/-- Why a value cannot be written. -/
inductive Unwritable where
  /-- It holds itself. -/
  | circular
  /-- It is nested so deep that it is taken for one that holds itself. -/
  | tooDeep
  /-- It holds bytes that are not the code of a text. -/
  | notEncoded (fault : Encoding.Fault)
  /-- It holds a whole number with more digits than are written. -/
  | tooManyDigits
deriving DecidableEq

/-- The most digits of a whole number that is read or written. -/
def Json.maxDigits : Nat := 4300

/-- Whether a whole number has more digits than are written. -/
def Json.hasTooManyDigits (value : Int) : Bool := Nat.pow 10 Json.maxDigits ≤ value.natAbs

/-- The wording of the fault. -/
def Unwritable.message : Unwritable → String
  | circular => "Circular reference detected (id repeated)"
  | tooDeep => "Circular reference detected (depth exceeded)"
  -- It is not told in which way the bytes are faulty.
  | notEncoded fault => { fault with reason := .invalid : Encoding.Fault }.message
  | tooManyDigits =>
    "Exceeds the limit (" ++ toString Json.maxDigits ++
      " digits) for integer string conversion; use sys.set_int_max_str_digits() to increase the " ++
      "limit"

namespace Json

/-- The members of an object, in order. -/
abbrev Members := List (String × Json)

/-- A whole number as a value. -/
@[match_pattern] abbrev int (value : Int) : Json := .num (.int value)

/-- A double as a value. -/
@[match_pattern] abbrev float (value : Float) : Json := .num (.float value)

mutual

/-- Whether two values are the same, members in the same order. -/
def decideEq : (a b : Json) → Decidable (a = b)
  | .null, .null => isTrue rfl
  | .bool a, .bool b =>
    if h : a = b then isTrue (by rw [h]) else isFalse (by simpa using h)
  | .num a, .num b =>
    if h : a = b then isTrue (by rw [h]) else isFalse (by simpa using h)
  | .str a, .str b =>
    if h : a = b then isTrue (by rw [h]) else isFalse (by simpa using h)
  | .arr a, .arr b =>
    match decideEqItems a b with
    | isTrue h => isTrue (by rw [h])
    | isFalse h => isFalse (by simpa using h)
  | .obj a, .obj b =>
    match decideEqMembers a b with
    | isTrue h => isTrue (by rw [h])
    | isFalse h => isFalse (by simpa using h)
  | .null, .bool _ | .null, .num _ | .null, .str _ | .null, .arr _ | .null, .obj _
  | .bool _, .null | .bool _, .num _ | .bool _, .str _ | .bool _, .arr _ | .bool _, .obj _
  | .num _, .null | .num _, .bool _ | .num _, .str _ | .num _, .arr _ | .num _, .obj _
  | .str _, .null | .str _, .bool _ | .str _, .num _ | .str _, .arr _ | .str _, .obj _
  | .arr _, .null | .arr _, .bool _ | .arr _, .num _ | .arr _, .str _ | .arr _, .obj _
  | .obj _, .null | .obj _, .bool _ | .obj _, .num _ | .obj _, .str _ | .obj _, .arr _ =>
    isFalse (by simp)

/-- Whether two lists of values are the same. -/
def decideEqItems : (a b : List Json) → Decidable (a = b)
  | [], [] => isTrue rfl
  | [], _ :: _ | _ :: _, [] => isFalse (by simp)
  | x :: xs, y :: ys =>
    match decideEq x y, decideEqItems xs ys with
    | isTrue h, isTrue t => isTrue (by rw [h, t])
    | isFalse h, _ => isFalse (by simp [h])
    | _, isFalse t => isFalse (by simp [t])

/-- Whether two lists of members are the same. -/
def decideEqMembers : (a b : List (String × Json)) → Decidable (a = b)
  | [], [] => isTrue rfl
  | [], _ :: _ | _ :: _, [] => isFalse (by simp)
  | (k, x) :: xs, (l, y) :: ys =>
    if hk : k = l then
      match decideEq x y, decideEqMembers xs ys with
      | isTrue h, isTrue t => isTrue (by rw [hk, h, t])
      | isFalse h, _ => isFalse (by simp [h])
      | _, isFalse t => isFalse (by simp [t])
    else isFalse (by simp [hk])

end

instance : DecidableEq Json := decideEq

namespace Members

/-- The value of the first member with a key. -/
def get? (members : Members) (key : String) : Option Json :=
  (members.find? fun member => member.1 == key).map Prod.snd

/-- The value under a key, null when the key is absent. -/
def getOrNull (members : Members) (key : String) : Json := (members.get? key).getD .null

/-- Whether a key is present. -/
def contains (members : Members) (key : String) : Bool :=
  members.any fun member => member.1 == key

/-- Puts a value under a key: in the place of the old one, or else at the end. -/
def set : Members → String → Json → Members
  | [], key, value => [(key, value)]
  | (k, v) :: rest, key, value =>
    if k == key then (k, value) :: rest else (k, v) :: set rest key value

/-- Puts every member of a second list in turn into the first. -/
def merge (members patch : Members) : Members :=
  patch.foldl (fun merged member => merged.set member.1 member.2) members

end Members

/-- The values that count as absent: null, false, zero and everything empty. -/
def isTruthy : Json → Bool
  | .null => false
  | .bool value => value
  | .num value => !value.isZero
  | .str value => value ≠ ""
  | .arr items => !items.isEmpty
  | .obj members => !members.isEmpty

/-- Null and the empty text say nothing. -/
def isUnset : Json → Bool
  | .null => true
  | .str text => text = ""
  | _ => false

/-- The members of an object; any other value has none. -/
def members? : Json → Option Members
  | .obj members => some members
  | _ => none

/-- The values that a value holds: the items of a list, the characters of a text or the keys of an
object. Any other value holds none. -/
def items? : Json → Option (List Json)
  | .arr items => some items
  | .str text => some (text.toList.map fun c => .str c.toString)
  | .obj members => some (members.map fun member => .str member.1)
  | _ => none

/-- The text of a string value. -/
def text? : Json → Option String
  | .str value => some value
  | _ => none

/-- The number a value counts as in arithmetic; true is one and false is zero. -/
def number? : Json → Option Number
  | .num value => some value
  | .bool value => some (.int (if value then 1 else 0))
  | _ => none

/-- A text, or null when there is none. -/
def ofText? : Option String → Json
  | some text => .str text
  | none => .null

mutual

/-- Whether every whole number in a value has few enough digits to be written. -/
def isWritable : Json → Bool
  | .num (.int value) => !hasTooManyDigits value
  | .arr items => areWritable items
  | .obj members => haveWritable members
  | _ => true

/-- Whether all items of a list can be written. -/
def areWritable : List Json → Bool
  | [] => true
  | item :: rest => isWritable item && areWritable rest

/-- Whether all members of an object can be written. -/
def haveWritable : List (String × Json) → Bool
  | [] => true
  | (_, value) :: rest => isWritable value && haveWritable rest

end

/-- The text that a writer makes of a value. A number with too many digits, anywhere in the value,
stops every writer. -/
def writtenBy (write : Json → String) (value : Json) : Except Unwritable String :=
  if value.isWritable then .ok (write value) else .error .tooManyDigits

mutual

/-- How deep a value is nested; a value that holds no other is one deep. -/
def depth : Json → Nat
  | .arr items => depthOfItems items + 1
  | .obj members => depthOfMembers members + 1
  | _ => 1

/-- How deep the deepest item of a list is nested. -/
def depthOfItems : List Json → Nat
  | [] => 0
  | item :: rest => max (depth item) (depthOfItems rest)

/-- How deep the deepest member of an object is nested. -/
def depthOfMembers : List (String × Json) → Nat
  | [] => 0
  | (_, value) :: rest => max (depth value) (depthOfMembers rest)

end

mutual

/-- Replaces doubles that are not finite by null, at every depth. -/
def finite : Json → Json
  | .num (.float x) => if x.isFinite then .num (.float x) else .null
  | .arr items => .arr (finiteItems items)
  | .obj members => .obj (finiteMembers members)
  | value => value

/-- Every item of a list without doubles that are not finite. -/
def finiteItems : List Json → List Json
  | [] => []
  | item :: rest => finite item :: finiteItems rest

/-- Every member of an object without doubles that are not finite. -/
def finiteMembers : List (String × Json) → List (String × Json)
  | [] => []
  | (key, value) :: rest => (key, finite value) :: finiteMembers rest

end

end Json

end Flowchart
