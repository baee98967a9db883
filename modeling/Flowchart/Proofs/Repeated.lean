import Mathlib.Data.List.Nodup

/-! Lists in which keys come up again. Of several items with one key the last one counts, in the place
of the first. -/

namespace Flowchart

/-- A list in which nothing comes twice loses nothing when what comes again is dropped. -/
theorem eraseDups_eq_self {names : List String} (distinct : names.Nodup) :
    names.eraseDups = names := by
  -- The first name is none of the rest, so nothing is filtered out behind it.
  induction names with
  | nil => rfl
  | cons name rest ih =>
    obtain ⟨fresh, later⟩ := List.nodup_cons.mp distinct
    have kept : rest.filter (fun other => !other == name) = rest := by
      refine List.filter_eq_self.mpr fun other member => ?_
      simp only [Bool.not_eq_true', beq_eq_false_iff_ne]
      rintro rfl
      exact fresh member
    rw [List.eraseDups_cons, kept, ih later]

/-- What comes last is dropped if it came before, and stays last if not. -/
theorem eraseDups_concat (names : List String) (name : String) :
    (names ++ [name]).eraseDups =
      if name ∈ names then names.eraseDups else names.eraseDups ++ [name] := by
  -- The last name is kept only if it did not come up before.
  rw [List.eraseDups_append]
  by_cases known : name ∈ names
  · simp [List.removeAll, known]
  · simp [List.removeAll, known, List.eraseDups_cons]

section Keyed

variable {α : Type} (key : α → String) {items : List α}

/-- Where keys are told apart, an item is found by its key. -/
theorem find?_eq_some_of_nodup {item : α} {wanted : String} (distinct : (items.map key).Nodup)
    (member : item ∈ items) (named : key item = wanted) :
    items.find? (fun other => key other == wanted) = some item := by
  subst wanted
  -- By induction on the items: the first one is wanted, or its key is another.
  induction items with
  | nil => cases member
  | cons first rest ih =>
    rw [List.map_cons, List.nodup_cons] at distinct
    rw [List.find?_cons]
    rcases List.mem_cons.mp member with rfl | later
    · simp
    · -- The first item would share its key with a later one.
      have apart : key first ≠ key item := by
        intro same
        exact distinct.1 (same ▸ List.mem_map_of_mem later)
      simp only [beq_eq_false_iff_ne.mpr apart]
      exact ih distinct.2 later

/-- A list is gone through by its keys if each item is found by its own. -/
theorem filterMap_key_eq_self {find : String → Option α}
    (found : ∀ item ∈ items, find (key item) = some item) :
    (items.map key).filterMap find = items := by
  -- Each item is found under its own key.
  rw [List.filterMap_map]
  exact (List.filterMap_congr found).trans List.filterMap_some

/-- Where keys are told apart, a list is what is found under its keys. -/
theorem filterMap_find?_of_nodup (distinct : (items.map key).Nodup) :
    (items.map key).filterMap (fun wanted => items.find? fun item => key item == wanted) =
      items :=
  filterMap_key_eq_self key fun _ member => find?_eq_some_of_nodup key distinct member rfl

/-- The last item with a key. -/
def lastOf? (items : List α) (wanted : String) : Option α :=
  items.reverse.find? fun item => key item == wanted

/-- The items that count in a list: the last one of each key, in the place of the first one. -/
def lastOfEach (items : List α) : List α :=
  (items.map key).eraseDups.filterMap (lastOf? key items)

/-- An item at the end is the last one of its key. -/
theorem lastOf?_concat (items : List α) (item : α) (wanted : String) :
    lastOf? key (items ++ [item]) wanted =
      if key item = wanted then some item else lastOf? key items wanted := by
  rw [lastOf?, List.reverse_append, List.reverse_singleton, List.singleton_append,
    List.find?_cons]
  -- Seen from the end the item that was added is the first.
  by_cases named : key item = wanted
  · simp [named]
  · simp [named, beq_eq_false_iff_ne.mpr named, lastOf?]

/-- Where keys are told apart, every item counts. -/
theorem lastOfEach_eq_self (distinct : (items.map key).Nodup) : lastOfEach key items = items := by
  -- The last of each key is the first one from the end, and turning keeps the keys apart.
  have turned : (items.reverse.map key).Nodup := by
    rw [List.map_reverse]
    exact List.nodup_reverse.mpr distinct
  rw [lastOfEach, eraseDups_eq_self distinct]
  refine filterMap_key_eq_self key fun item member => ?_
  exact find?_eq_some_of_nodup key turned (List.mem_reverse.mpr member) rfl

end Keyed

end Flowchart
