import Flowchart.Json

/-! Objects with values put into them: what is seen under each key afterwards. A merge puts the
members of a second object into the first, so under each key the second one counts, if it has it. -/

namespace Flowchart

namespace Json.Members

variable {members patch : Members} {key other : String}

/-- The first member is the one that is seen under its key, and hides no other key. -/
theorem get?_cons (first : String × Json) (rest : Members) (key : String) :
    get? (first :: rest) key = if first.1 = key then some first.2 else get? rest key := by
  by_cases named : first.1 = key <;> simp [get?, named]

/-- Of members that follow other ones only those are seen whose keys have not come up before. -/
theorem get?_append (members later : Members) (key : String) :
    (members ++ later).get? key = (members.get? key).or (later.get? key) := by
  -- The first part is searched first.
  rw [get?, List.find?_append, Option.map_or]
  rfl

/-- A value that is put under a key is not seen under other keys. -/
theorem get?_set_of_ne (apart : other ≠ key) (value : Json) :
    (members.set other value).get? key = members.get? key := by
  -- The new member stands where its key stood, or behind all others.
  induction members with
  | nil => simp [set, get?, apart]
  | cons first rest ih =>
    unfold get? at ih ⊢
    rw [set]
    by_cases named : first.1 = other
    · -- Neither the old member nor the new one is the one that is looked for.
      have passed : first.1 ≠ key := named ▸ apart
      simp [named, apart]
    · simp only [beq_iff_eq, named, if_false, List.find?_cons]
      cases first.1 == key with
      | true => rfl
      | false => exact ih

/-- A value that is put under a key is seen there. -/
@[simp] theorem get?_set (members : Members) (key : String) (value : Json) :
    (members.set key value).get? key = some value := by
  -- The first member of the key is the one that is set, so it is found first.
  induction members with
  | nil => simp [set, get?]
  | cons first rest ih =>
    unfold get? at ih ⊢
    by_cases named : first.1 = key
    · simp [set, named]
    · simp [set, named, ih]

/-- A value that is put under a key is seen there, null or not. -/
@[simp] theorem getOrNull_set (members : Members) (key : String) (value : Json) :
    (members.set key value).getOrNull key = value := by
  rw [getOrNull, get?_set, Option.getD_some]

/-- Of two values that are put under one key the second one stays. -/
@[simp] theorem set_set (members : Members) (key : String) (first second : Json) :
    (members.set key first).set key second = members.set key second := by
  -- The second value comes to the place that the first one was put in.
  induction members with
  | nil => simp [set]
  | cons entry rest ih =>
    by_cases named : entry.1 = key
    · simp [set, named]
    · simp [set, named, ih]

/-- A value that is under a key can be put there again. -/
theorem set_of_get? {value : Json} (held : members.get? key = some value) :
    members.set key value = members := by
  -- The member that is found is the one that is set, and it has the value already.
  induction members with
  | nil => cases held
  | cons first rest ih =>
    rw [get?_cons] at held
    rw [set]
    by_cases named : first.1 = key
    · rw [if_pos named, Option.some.injEq] at held
      rw [if_pos (beq_iff_eq.mpr named), ← held]
    · rw [if_neg named] at held
      rw [if_neg (by simpa using named), ih held]

/-- A member after a value is put under a key was there before, or it is the value under the key. -/
theorem mem_set {value : Json} {member : String × Json} (held : member ∈ members.set key value) :
    member ∈ members ∨ member = (key, value) := by
  -- Setting replaces one member or appends one.
  induction members with
  | nil => exact .inr (List.mem_singleton.mp held)
  | cons first rest ih =>
    rw [set] at held
    split at held
    · next named =>
      rcases List.mem_cons.mp held with same | later
      · exact .inr (same.trans (congrArg (·, value) (eq_of_beq named)))
      · exact .inl (List.mem_cons_of_mem _ later)
    · rcases List.mem_cons.mp held with same | later
      · exact .inl (same ▸ List.mem_cons_self)
      · exact (ih later).imp_left (List.mem_cons_of_mem _)

/-- What holds of the members of two objects holds of the members of both merged. -/
theorem merge_forall {property : String × Json → Prop} (old : ∀ member ∈ members, property member)
    (new : ∀ member ∈ patch, property member) : ∀ member ∈ members.merge patch, property member := by
  -- Each member of the patch is put in on its own, so the merged members stay free.
  induction patch generalizing members with
  | nil => exact old
  | cons first rest ih =>
    refine ih (fun member held => ?_) fun member later => new member (List.mem_cons_of_mem _ later)
    rcases mem_set held with before | same
    · exact old member before
    · exact same ▸ new first List.mem_cons_self

/-- A value that is seen under a key is the value of a member. -/
theorem mem_of_get? {value : Json} (held : members.get? key = some value) :
    (key, value) ∈ members := by
  -- What is found under a key is a member of that key.
  obtain ⟨member, found, rfl⟩ := Option.map_eq_some_iff.mp held
  have named : member.1 = key :=
    eq_of_beq (List.find?_some (p := fun entry : String × Json => entry.1 == key) found)
  exact named ▸ List.mem_of_find?_eq_some found

/-- Where the keys are distinct, every member is seen under its key. -/
theorem get?_of_mem (distinct : (members.map Prod.fst).Nodup) {member : String × Json}
    (held : member ∈ members) : members.get? member.1 = some member.2 := by
  -- No earlier member has the same key.
  induction members with
  | nil => cases held
  | cons first rest ih =>
    obtain ⟨single, later⟩ := List.nodup_cons.mp distinct
    rw [get?_cons]
    rcases List.mem_cons.mp held with rfl | inside
    · exact if_pos rfl
    · have apart : first.1 ≠ member.1 := fun same => single (same ▸ List.mem_map_of_mem inside)
      rw [if_neg apart, ih later inside]

/-- A merge of values that are all there already changes nothing, not even the order of the keys. -/
theorem merge_of_forall_get? (held : ∀ member ∈ patch, members.get? member.1 = some member.2) :
    members.merge patch = members := by
  -- Every member of the patch is there already, so each of them is set in vain.
  induction patch with
  | nil => rfl
  | cons first rest ih =>
    obtain ⟨single, later⟩ := List.forall_mem_cons.mp held
    calc members.merge (first :: rest)
        = (members.set first.1 first.2).merge rest := rfl
      _ = members.merge rest := by rw [set_of_get? single]
      _ = members := ih later

/-- An object with distinct keys that is merged into itself stays as it is. -/
theorem merge_self (distinct : (members.map Prod.fst).Nodup) : members.merge members = members :=
  merge_of_forall_get? fun _ held => get?_of_mem distinct held

/-- Keys that are not in a patch keep their values. -/
theorem get?_merge_of_not_contains (absent : patch.contains key = false) :
    (members.merge patch).get? key = members.get? key := by
  -- The members of the patch are put into the others one by one.
  induction patch generalizing members with
  | nil => rfl
  | cons first rest ih =>
    simp only [contains, List.any_cons, Bool.or_eq_false_iff, beq_eq_false_iff_ne] at absent
    calc ((members.set first.1 first.2).merge rest).get? key
        = (members.set first.1 first.2).get? key := ih absent.2
      _ = members.get? key := get?_set_of_ne absent.1 first.2

/-- No key gets lost in a merge. -/
theorem get?_of_merge (absent : (members.merge patch).get? key = none) :
    members.get? key = none := by
  induction patch generalizing members with
  | nil => exact absent
  | cons first rest ih =>
    have before : (members.set first.1 first.2).get? key = none := ih absent
    -- What a merge has set is there at the end, since nothing is taken away.
    by_cases named : first.1 = key
    · rw [named, get?_set] at before
      cases before
    · rwa [get?_set_of_ne named] at before

/-- A value that is put under a key adds at most the key to the keys. -/
theorem keys_set (members : Members) (key : String) (value : Json) :
    (members.set key value).map Prod.fst =
      if key ∈ members.map Prod.fst then members.map Prod.fst
      else members.map Prod.fst ++ [key] := by
  -- A key that is not found comes behind all others.
  induction members with
  | nil => rfl
  | cons first rest ih =>
    by_cases here : first.1 = key
    · simp [set, here]
    · rw [set, if_neg (by simpa using here), List.map_cons, ih]
      by_cases later : key ∈ rest.map Prod.fst
      · simp [later]
      · simp [later, Ne.symm here]

/-- Keys stay distinct when a value is put under one. -/
theorem distinct_set (distinct : (members.map Prod.fst).Nodup) (key : String) (value : Json) :
    ((members.set key value).map Prod.fst).Nodup := by
  rw [keys_set]
  -- A new key is none of the old ones.
  split
  · exact distinct
  · next absent =>
    refine List.nodup_append.mpr ⟨distinct, by simp, fun held listed last single => ?_⟩
    rintro rfl
    exact absent (List.mem_singleton.mp single ▸ listed)

/-- Keys stay distinct in a merge, whatever is merged. -/
theorem distinct_merge (distinct : (members.map Prod.fst).Nodup) (patch : Members) :
    ((members.merge patch).map Prod.fst).Nodup := by
  -- One member of the patch after the other is set, and each keeps the keys apart.
  induction patch generalizing members with
  | nil => exact distinct
  | cons first rest ih => exact ih (distinct_set distinct first.1 first.2)

/-- Where the keys of a patch are distinct, each of its values is seen after the merge. -/
theorem get?_merge (distinct : (patch.map Prod.fst).Nodup) (members : Members) (key : String) :
    (members.merge patch).get? key = (patch.get? key).or (members.get? key) := by
  -- The members of the patch are set one by one, and the later ones lie over the earlier.
  induction patch generalizing members with
  | nil => rfl
  | cons first rest ih =>
    obtain ⟨single, later⟩ := List.nodup_cons.mp distinct
    have merged : (members.merge (first :: rest)).get? key =
        (get? rest key).or ((members.set first.1 first.2).get? key) := ih later _
    rw [merged]
    by_cases named : first.1 = key
    · -- No later member has the key, so nothing is put over the value.
      subst named
      have absent : get? rest first.1 = none := by
        rw [get?, Option.map_eq_none_iff, List.find?_eq_none]
        intro entry listed same
        exact single (eq_of_beq same ▸ List.mem_map_of_mem listed)
      rw [absent, get?_set]
      simp [get?]
    · rw [get?_set_of_ne named]
      simp [get?, named]

end Json.Members

end Flowchart
