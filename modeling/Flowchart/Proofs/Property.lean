import Flowchart.Proofs.Outcome
import Flowchart.Property

/-! Properties that are sorted again after they were sorted. A sorted property keeps the name that it
was sorted by, and each of our types is sorted under itself by its own name, so sorting again changes
no type. -/

namespace Flowchart

namespace PropertyType

/-- Each type has one of four names. -/
theorem name_mem (type : PropertyType) : type.name ∈ ["string", "number", "date", "boolean"] := by
  cases type <;> decide

/-- No type is without a name. -/
theorem name_ne_empty (type : PropertyType) : type.name ≠ "" := by
  cases type <;> decide

/-- Our own types are sorted under themselves. -/
theorem ofForeign_name (type : PropertyType) : ofForeign type.name = type := by
  cases type <;> decide +kernel

/-- No name stands for a string. -/
theorem ofForeign_empty : ofForeign "" = .string := by decide +kernel

end PropertyType

namespace Property

/-- The name of a type that a property was sorted by, empty if there was none. -/
def sortName (property : Property) : String := property.foreignType.getD ""

/-- A property is of the type that the name stands for that it was sorted by. -/
def IsSorted (property : Property) : Prop := property.type = .ofForeign property.sortName

/-- The name that a property is sorted by when it is sorted again: the one that it was sorted by, or
else the name of its type. -/
def againName (property : Property) : String :=
  if property.sortName = "" then property.type.name else property.sortName

/-- A property after it is sorted again. It keeps the name that it is sorted by this time. -/
def again (property : Property) : Property :=
  { property with
    type := .ofForeign property.againName
    foreignType := some property.againName }

section Reading

variable {V : Type} [Readable V]

/-- The type of a property, and the name that it keeps of it, as the value has them that tells its
type. Without a value it is a string and keeps no name. -/
def SortedBy (property : Property) : Option V → Prop
  | some foreign => typeOf foreign = .ok property.type ∧
      Shape.optional Shape.text foreign = .ok property.foreignType
  | none => property.type = .string ∧ property.foreignType = none

/-- A property is read exactly if it has an id, and its id, its label and its type are read. -/
theorem ofFields_eq_ok {get : String → Option V} {property : Property} :
    ofFields get = .ok property ↔ ∃ id, get "id" = some id ∧
      Shape.text id = .ok property.id ∧ Shape.text ((get "label").getD id) = .ok property.label ∧
        property.SortedBy (foreignTypeOf get) := by
  obtain ⟨id, label, type, kept⟩ := property
  unfold ofFields
  cases held : get "id" with
  | none => simp
  | some value =>
    -- The type is looked at before the parts are, and its value once more with the parts.
    cases told : foreignTypeOf get with
    | none =>
      simp [SortedBy, bind_eq_ok, Checked.part_eq_ok, Checked.build, Shape.required,
        Shape.withDefault, eq_comm (a := type), eq_comm (a := kept)]
    | some foreign =>
      simp [SortedBy, bind_eq_ok, Checked.part_eq_ok, Checked.build, Shape.required,
        Shape.withDefault, and_comm, and_left_comm, and_assoc]

/-- The type of a property is told by the name that it keeps. -/
theorem SortedBy.isSorted {property : Property} {foreign : Option V}
    (sorted : property.SortedBy foreign) : property.IsSorted := by
  obtain ⟨id, label, type, kept⟩ := property
  show type = .ofForeign (kept.getD "")
  -- A property without a foreign type is a string. Any other is sorted by what the foreign type is
  -- shown as.
  cases foreign with
  | none =>
    obtain ⟨rfl, rfl⟩ := sorted
    exact PropertyType.ofForeign_empty.symm
  | some foreign =>
    obtain ⟨typed, read⟩ := sorted
    unfold typeOf Readable.isTruthy at typed
    unfold Shape.optional Shape.text at read
    -- What counts as absent stands for a string. Of that only null and the empty text are kept.
    cases shown : Readable.view foreign with
    | null =>
      simp only [shown] at typed read
      cases typed
      cases read
      exact PropertyType.ofForeign_empty.symm
    | text name =>
      simp only [shown] at typed read
      cases read
      by_cases empty : name = ""
      · simp [empty] at typed
        simp [empty, ← typed, PropertyType.ofForeign_empty]
      · simp [empty] at typed
        exact typed.symm
    | bytes content =>
      -- Bytes are no name, unless they are empty.
      simp only [shown] at typed read
      by_cases empty : content = some ""
      · subst empty
        cases typed
        cases read
        exact PropertyType.ofForeign_empty.symm
      · simp [empty] at typed
    | _ =>
      simp only [shown] at read
      cases read

/-- Whatever a property is read from, it is sorted. -/
theorem isSorted_of_value {value : V} {property : Property} (read : ofValue value = .ok property) :
    property.IsSorted := by
  -- A mapping and a sequence of pairs are read through the same lookup of fields.
  have fields : ∃ get : String → Option V, ofFields get = .ok property := by
    unfold ofValue at read
    split at read
    · exact ⟨_, read⟩
    · obtain ⟨pairs, -, read⟩ := bind_eq_ok.mp read
      exact ⟨_, read⟩
  obtain ⟨get, read⟩ := fields
  obtain ⟨id, -, -, -, sorted⟩ := ofFields_eq_ok.mp read
  exact sorted.isSorted

/-- Properties that are sorted are sorted one by one. -/
theorem isSorted_of_normalize {raw : List V} {properties : List Property}
    (normalized : normalize raw = .ok properties) : ∀ property ∈ properties, property.IsSorted := by
  -- Each property was read from one of the values.
  intro property member
  obtain ⟨value, -, read⟩ := exists_of_forall₂_right (mapM_eq_ok.mp normalized) member
  exact isSorted_of_value read

end Reading

section Again

variable (property : Property)

/-- There is always a name to sort a property by again. -/
theorem againName_ne_empty : property.againName ≠ "" := by
  -- An empty name is replaced by that of the type.
  unfold againName
  split
  · exact property.type.name_ne_empty
  · assumption

/-- A name that is not empty is sorted. -/
theorem typeOf_str {name : String} (named : name ≠ "") :
    typeOf (Json.str name) = .ok (.ofForeign name) := by
  -- A name that is not empty counts as given.
  have present : Readable.isTruthy (Json.str name) = true := by
    simpa [isTruthy_json, Json.isTruthy] using named
  rw [typeOf, if_pos present]
  rfl

/-- The type of a written property is told by the name that it kept, or else by that of its type. -/
theorem foreignTypeOf_toJson : foreignTypeOf (Json.Members.get? [("id", .str property.id),
    ("label", .str property.label), ("type", .str property.type.name),
    ("original_type", .ofText? property.foreignType)]) = some (.str property.againName) := by
  -- A kept name is looked at first, and gives way to that of the type if it is empty.
  unfold foreignTypeOf againName sortName
  cases property.foreignType with
  | none => rfl
  | some name =>
    by_cases empty : name = ""
    · subst empty
      rfl
    · simp [Json.Members.get?, isTruthy_json, Json.ofText?, Json.isTruthy, empty]

/-- A property that is written and read is sorted again. -/
theorem ofValue_toJson : ofValue property.toJson = .ok property.again := by
  -- The second pass sorts by the name the first pass wrote, which is never empty.
  have sorted : property.again.SortedBy (some (Json.str property.againName)) := by
    simp only [SortedBy, again]
    exact ⟨typeOf_str property.againName_ne_empty, Shape.optional_text_eq_ok.mpr rfl⟩
  rw [← foreignTypeOf_toJson] at sorted
  simp only [ofValue, toJson, Readable.view, Json.view]
  exact ofFields_eq_ok.mpr ⟨Json.str property.id, by simp [Json.Members.get?],
    by simp [again], by simp [Json.Members.get?, again], sorted⟩

/-- Sorting for a third time changes nothing. -/
theorem again_again : property.again.again = property.again := by
  -- The name that is kept is not empty, so it is kept again.
  have kept : property.again.againName = property.againName :=
    if_neg property.againName_ne_empty
  rw [again, kept]
  simp only [again]

variable {property}

/-- Sorting again keeps the type of a property that is sorted. -/
theorem IsSorted.again_type (sorted : property.IsSorted) : property.again.type = property.type := by
  -- The type is sorted by its own name, or by the name it was sorted by before.
  simp only [again, againName]
  split
  · exact property.type.ofForeign_name
  · exact sorted.symm

/-- A property that is sorted again, beside what it was: all that may differ is the name that it keeps
of its type, and only if it kept none. -/
structure Resorted (first second : Property) : Prop where
  id : second.id = first.id
  label : second.label = first.label
  type : second.type = first.type
  kept : ∀ name, first.foreignType = some name → name ≠ "" → second.foreignType = some name
  /-- What kept no name is a string, and is known by that name from then on. -/
  named : first.foreignType = none ∨ first.foreignType = some "" →
    second.foreignType = some "string"

/-- A property that is sorted changes as told when it is sorted again. -/
theorem IsSorted.resorted (sorted : property.IsSorted) : property.Resorted property.again where
  id := by simp only [again]
  label := by simp only [again]
  type := sorted.again_type
  kept name held filled := by
    simp [again, againName, sortName, held, filled]
  named nameless := by
    -- Without a foreign name the type is the string, and the second pass writes its name.
    have unsorted : property.sortName = "" := by
      rcases nameless with held | held <;> simp [sortName, held]
    have type : property.type = .string := by
      rw [sorted, unsorted]
      exact PropertyType.ofForeign_empty
    simp [again, againName, unsorted, type, PropertyType.name]

end Again

/-- Properties that are written and read are sorted again. -/
theorem normalize_toJson (properties : List Property) :
    normalize (properties.map toJson) = .ok (properties.map again) :=
  mapM_map_eq_ok fun property _ => ofValue_toJson property

/-- Sorting is stable. Whatever properties are read from, the ones that come of it are of one of four
types. Read once more they keep ids, labels and types, and a name that one of them kept of its type
stays; the others are strings, and keep the name of that. From then on reading them changes
nothing. -/
theorem normalize_again {V : Type} [Readable V] {raw : List V} {once : List Property}
    (normalized : normalize raw = .ok once) :
    ∃ twice, normalize (once.map toJson) = .ok twice ∧ twice.length = once.length ∧
      List.Forall₂ Resorted once twice ∧
      (∀ property ∈ once ++ twice,
        property.type.name ∈ ["string", "number", "date", "boolean"]) ∧
      normalize (twice.map toJson) = .ok twice := by
  have sorted := isSorted_of_normalize normalized
  refine ⟨once.map again, normalize_toJson once, List.length_map again, ?_,
    fun property _ => property.type.name_mem, ?_⟩
  -- Each property stands beside what the second pass makes of it.
  · rw [List.forall₂_map_right_iff, List.forall₂_same]
    exact fun property member => (sorted property member).resorted
  -- The third pass makes of it what the second did.
  · have still : (once.map again).map again = once.map again := by
      rw [List.map_map]
      exact List.map_congr_left fun property _ => property.again_again
    rw [normalize_toJson, still]

/-- Properties with a foreign type, with our own, with an empty name that was kept, and with none. -/
def assorted : List Json :=
  [.obj [("id", .str "a"), ("type", .str "Nullable<INT32>")],
    .obj [("id", .str "b"), ("label", .str "Paid"), ("type", .str "boolean")],
    .obj [("id", .str "c"), ("type", .str ""), ("original_type", .str "")],
    .obj [("id", .str "d"), ("type", .null)]]

/-- The last two keep no name at first, and keep that of a string when they are read again. -/
theorem assorted_again :
    normalize assorted = .ok [⟨"a", "a", .number, some "Nullable<INT32>"⟩,
      ⟨"b", "Paid", .boolean, some "boolean"⟩, ⟨"c", "c", .string, some ""⟩,
      ⟨"d", "d", .string, none⟩] ∧
    ∃ once twice, normalize assorted = .ok once ∧ normalize (once.map toJson) = .ok twice ∧
      twice.map foreignType =
        [some "Nullable<INT32>", some "boolean", some "string", some "string"] ∧
      List.Forall₂ Resorted once twice ∧ normalize (twice.map toJson) = .ok twice := by
  have read : normalize assorted = .ok [⟨"a", "a", .number, some "Nullable<INT32>"⟩,
      ⟨"b", "Paid", .boolean, some "boolean"⟩, ⟨"c", "c", .string, some ""⟩,
      ⟨"d", "d", .string, none⟩] := by decide +kernel
  -- What is known of any two passes is read at this list. Only the names that stay are computed.
  obtain ⟨twice, again, -, resorted, -, still⟩ := normalize_again read
  refine ⟨read, _, twice, read, again, ?_, resorted, still⟩
  rw [normalize_toJson, Except.ok.injEq] at again
  subst again
  decide +kernel

end Property

end Flowchart
