import Flowchart.Json

/-! When two values count as equal: whole numbers, doubles and flags are compared by what they count
as, and objects whatever the order of their members. -/

namespace Flowchart

/-- The number that all numbers of one value share. -/
def Number.core : Number → Number
  | .int value => .int value
  | .float x =>
    match Binary64.ofFloat? x with
    -- A double without a fraction is the same as a whole number.
    | some value =>
      let (numerator, denominator) := value.toFraction
      if numerator % denominator = 0 then .int (numerator / denominator) else .float x
    | none => if x.isNaN then .float (0.0 / 0.0) else .float x

namespace Json

mutual

/-- The value that all values of one meaning share. -/
def core : Json → Json
  | .null => .null
  | .bool value => .int (if value then 1 else 0)
  | .num value => .num value.core
  | .str text => .str text
  | .arr items => .arr (coreItems items)
  | .obj members => .obj ((coreMembers members).mergeSort fun a b => a.1 ≤ b.1)

/-- The cores of the items of a list. -/
def coreItems : List Json → List Json
  | [] => []
  | item :: rest => core item :: coreItems rest

/-- The members of an object with the cores of their values. -/
def coreMembers : List (String × Json) → List (String × Json)
  | [] => []
  | (key, value) :: rest => (key, core value) :: coreMembers rest

end

/-- Whether a value is a double that is not a number. -/
def isUndefined : Json → Bool
  | .num (.float x) => x.isNaN
  | _ => false

/-- Whether two values count as the same when they stand inside of others. -/
def isSame (a b : Json) : Bool := a.core == b.core

/-- Whether two values are equal. What is not a number equals nothing. -/
def equals (a b : Json) : Bool := a.isSame b && !a.isUndefined

/-- Whether a value can be told apart by its content once and for all, as keys are: lists and
objects cannot. -/
def isFixed : Json → Bool
  | .arr _ => false
  | .obj _ => false
  | _ => true

/-- A text shares its meaning with nothing else. -/
theorem core_eq_str (value : Json) (text : String) :
    value.core = .str text ↔ value = .str text := by
  -- Only a text has a text for its core.
  cases value <;> simp [core]

/-- A text is the same as itself and nothing else. -/
@[simp] theorem isSame_str (value : Json) (text : String) :
    value.isSame (.str text) = true ↔ value = .str text := by
  rw [isSame, beq_iff_eq]
  exact core_eq_str value text

/-- What is the same as a text is the text itself. -/
theorem str_isSame (text : String) (value : Json) :
    Json.isSame (.str text) value = true ↔ value = .str text := by
  rw [isSame, beq_iff_eq, eq_comm]
  exact core_eq_str value text

/-- A text equals itself and nothing else. -/
@[simp] theorem equals_str (value : Json) (text : String) :
    value.equals (.str text) = true ↔ value = .str text := by
  rw [equals, Bool.and_eq_true, isSame_str]
  exact ⟨fun both => both.1, fun same => ⟨same, by rw [same]; rfl⟩⟩

/-- What a text equals is the text itself. -/
@[simp] theorem str_equals (text : String) (value : Json) :
    Json.equals (.str text) value = true ↔ value = .str text := by
  rw [equals, Bool.and_eq_true, str_isSame]
  exact ⟨fun both => both.1, fun same => ⟨same, rfl⟩⟩

/-- Texts are equal when they are the same text. -/
theorem str_equals_str (first second : String) :
    Json.equals (.str first) (.str second) = (first == second) := by
  rw [Bool.eq_iff_iff, str_equals, beq_iff_eq, Json.str.injEq]
  exact eq_comm

/-- Equal values have one core. -/
theorem core_eq_of_equals {a b : Json} (same : a.equals b = true) : a.core = b.core := by
  simp only [equals, isSame, Bool.and_eq_true, beq_iff_eq] at same
  exact same.1

/-- What equals one value equals every other value of that meaning. -/
theorem equals_congr {a b : Json} (same : a.core = b.core) (value : Json) :
    value.equals a = value.equals b := by
  rw [equals, equals, isSame, isSame, same]

end Json

end Flowchart
