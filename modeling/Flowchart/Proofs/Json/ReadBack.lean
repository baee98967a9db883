import Flowchart.Proofs.Json.Scalars

/-! What is written over several lines is read back. Each value is read from the characters that it
is written as, whatever comes behind them, if nothing of it is lost in its text. -/

namespace Flowchart

namespace Json

mutual

/-- Nothing in a value is lost in its text: whole numbers can be written, doubles are read from their
own texts, and no key comes twice. -/
def IsTold : Json → Prop
  | .num (.float x) =>
    readValue 1 ((Number.float x).render spelling).toList = .ok (.float x, [])
  | .num (.int value) => (Json.int value).isWritable = true
  | .arr items => AreTold items
  | .obj members => (members.map Prod.fst).Nodup ∧ HaveTold members
  | .null | .bool _ | .str _ => True

/-- Nothing is lost of the items of a list. -/
def AreTold : List Json → Prop
  | [] => True
  | item :: rest => IsTold item ∧ AreTold rest

/-- Nothing is lost of the values in an object. -/
def HaveTold : List (String × Json) → Prop
  | [] => True
  | (_, value) :: rest => IsTold value ∧ HaveTold rest

end

mutual

/-- Whether something of a value is lost can be computed. -/
def decidableTold : (value : Json) → Decidable value.IsTold
  | .num (.float _) => decidable_of_iff _ toOption_eq_some
  | .num (.int value) => inferInstanceAs (Decidable ((Json.int value).isWritable = true))
  | .arr items => decidableAreTold items
  | .obj members =>
    have := decidableHaveTold members
    inferInstanceAs (Decidable ((members.map Prod.fst).Nodup ∧ HaveTold members))
  | .null | .bool _ | .str _ => .isTrue trivial

/-- Whether something of items is lost can be computed. -/
def decidableAreTold : (items : List Json) → Decidable (AreTold items)
  | [] => .isTrue trivial
  | item :: rest =>
    have := decidableTold item
    have := decidableAreTold rest
    inferInstanceAs (Decidable (item.IsTold ∧ AreTold rest))

/-- Whether something of the values in an object is lost can be computed. -/
def decidableHaveTold : (members : List (String × Json)) → Decidable (HaveTold members)
  | [] => .isTrue trivial
  | (_, value) :: rest =>
    have := decidableTold value
    have := decidableHaveTold rest
    inferInstanceAs (Decidable (value.IsTold ∧ HaveTold rest))

end

instance : DecidablePred IsTold := decidableTold

/-- Behind a value in a list or an object comes a comma or the end of a line. -/
theorem ends_itemChars (depth : Nat) (items : List Json) (rest : List Char) :
    Ends (itemChars depth items ++ (newlineChars depth ++ rest)) := by
  -- Behind the last item there is a new line, and behind any other a comma.
  cases items with
  | nil => exact fun c first => .inr (Option.some.inj first).symm
  | cons item items => exact fun c first => .inl (by simpa [itemChars] using first.symm)

/-- Behind a member comes a comma or the end of a line, too. -/
theorem ends_memberChars (depth : Nat) (members : List (String × Json)) (rest : List Char) :
    Ends (memberChars depth members ++ (newlineChars depth ++ rest)) := by
  -- Behind the last member there is a new line, and behind any other a comma.
  cases members with
  | nil => exact fun c first => .inr (Option.some.inj first).symm
  | cons member members => exact fun c first => .inl (by simpa [memberChars] using first.symm)

/-- The end of a line and the blanks behind it are dropped. -/
theorem skipBlanks_newlineChars (depth : Nat) {c : Char} (visible : isBlank c = false)
    (rest : List Char) : skipBlanks (newlineChars depth ++ c :: rest) = c :: rest := by
  -- A new line is followed by blanks, and all of them are skipped.
  have blank : ∀ c ∈ newlineChars depth, isBlank c = true :=
    List.forall_mem_cons.mpr ⟨by decide, fun _ member => List.eq_of_mem_replicate member ▸ by decide⟩
  rw [skipBlanks, List.dropWhile_append_of_pos blank]
  simp [visible]

/-- A colon is no blank, and neither is a comma. -/
theorem skipBlanks_marks (rest : List Char) :
    skipBlanks (':' :: rest) = ':' :: rest ∧ skipBlanks (',' :: rest) = ',' :: rest := ⟨rfl, rfl⟩

/-- A value under a new key comes behind the members that are there. -/
theorem set_of_new {members : Members} {key : String} (absent : key ∉ members.map Prod.fst)
    (value : Json) : members.set key value = members ++ [(key, value)] := by
  -- No member has the key, so the new one comes behind all.
  induction members with
  | nil => rfl
  | cons member rest ih =>
    rw [List.map_cons, List.mem_cons, not_or] at absent
    rw [Members.set, if_neg (by simpa using Ne.symm absent.1), ih absent.2, List.cons_append]

mutual

/-- A value is read from what it is written as, whatever comes behind it. -/
theorem readValue_indentedChars (depth : Nat) (value : Json) (told : value.IsTold) (fuel : Nat)
    (rest : List Char) (ends : Ends rest) (enough : (indentedChars depth value).length < fuel) :
    readValue fuel (indentedChars depth value ++ rest) = .ok (value, rest) := by
  -- The recursion is the reader's, on its fuel, which is always more than is still to be read.
  match fuel, value with
  | 0, value => cases enough
  | fuel + 1, .null | fuel + 1, .bool true | fuel + 1, .bool false => rfl
  | fuel + 1, .arr [] | fuel + 1, .obj [] => rfl
  | fuel + 1, .num (.int number) =>
    rw [IsTold] at told
    exact readValue_int told ends fuel
  | fuel + 1, .num (.float x) =>
    rw [IsTold] at told
    exact readValue_append ends told fuel
  | fuel + 1, .str text =>
    -- The budget of a string is what is behind its quote, whatever that is.
    obtain ⟨inner, same, read⟩ := readString_quoteChars text rest
    rw [indentedChars, same, readValue, read]
    rfl
  | fuel + 1, .arr (item :: items) =>
    rw [IsTold, AreTold] at told
    -- An opening bracket was read, so less is left than there is fuel.
    have size : (indentedChars (depth + 1) item).length + (itemChars depth items).length + 1 <
        fuel := by
      simp only [indentedChars, newlineChars, List.length_append, List.length_cons] at enough
      omega
    have one := readValue_indentedChars (depth + 1) item told.1 fuel _
      (ends_itemChars depth items (']' :: rest)) (by omega)
    have all := readItems_indentedChars depth item items told.1 told.2 fuel rest size
    -- The first item starts with no blank and with nothing that ends the list.
    obtain ⟨c, others, same, visible, inside⟩ := starts_of_read one
    have text : indentedChars depth (.arr (item :: items)) ++ rest =
        '[' :: (newlineChars (depth + 1) ++ c :: others) := by
      simp [indentedChars, ← same]
    rw [same] at all
    rw [text, readValue, skipBlanks_newlineChars _ visible]
    split
    · next closed => exact absurd (List.cons.inj closed).1 inside
    · rw [all]
      rfl
  | fuel + 1, .obj ((key, value) :: members) =>
    rw [IsTold, HaveTold] at told
    have size : (indentedChars (depth + 1) value).length + (memberChars depth members).length + 1 <
        fuel := by
      simp only [indentedChars, newlineChars, List.length_append, List.length_cons] at enough
      omega
    have all := readMembers_indentedChars depth [] key value members told.2.1 told.2.2 told.1 fuel
      rest size
    have text : indentedChars depth (.obj ((key, value) :: members)) ++ rest =
        '\x7b' :: (newlineChars (depth + 1) ++ (quoteChars key ++ ':' :: ' ' ::
          (indentedChars (depth + 1) value ++
            (memberChars depth members ++ (newlineChars depth ++ '\x7d' :: rest))))) := by
      simp [indentedChars]
    -- The first key starts with a quote, so blanks end there and the object goes on.
    obtain ⟨inner, same, -⟩ := readString_quoteChars key (':' :: ' ' ::
      (indentedChars (depth + 1) value ++
        (memberChars depth members ++ (newlineChars depth ++ '\x7d' :: rest))))
    rw [same] at all text
    rw [text, readValue, skipBlanks_newlineChars _ (by decide)]
    split
    · next closed => exact absurd (List.cons.inj closed).1 (by decide)
    · rw [all]
      rfl

/-- Items are read from what they are written as, the first one with the others. -/
theorem readItems_indentedChars (depth : Nat) (item : Json) (items : List Json)
    (first : item.IsTold) (others : AreTold items) (fuel : Nat) (rest : List Char)
    (enough : (indentedChars (depth + 1) item).length + (itemChars depth items).length + 1 < fuel) :
    readItems fuel (indentedChars (depth + 1) item ++
      (itemChars depth items ++ (newlineChars depth ++ ']' :: rest))) =
        .ok (item :: items, rest) := by
  match fuel with
  | 0 => cases enough
  | fuel + 1 =>
    -- Behind the item comes a comma or the end of a line, where reading it ends.
    have one := readValue_indentedChars (depth + 1) item first fuel _
      (ends_itemChars depth items (']' :: rest)) (by omega)
    rw [readItems, one]
    match items with
    | [] =>
      simp only [Bind.bind, Except.bind, itemChars, List.nil_append]
      rw [skipBlanks_newlineChars _ (by decide)]
      rfl
    | next :: later =>
      rw [AreTold] at others
      have size : (indentedChars (depth + 1) next).length + (itemChars depth later).length + 1 <
          fuel := by
        simp only [itemChars, newlineChars, List.length_append, List.length_cons] at enough
        omega
      have two := readValue_indentedChars (depth + 1) next others.1 fuel _
        (ends_itemChars depth later (']' :: rest)) (by omega)
      have all := readItems_indentedChars depth next later others.1 others.2 fuel rest size
      -- The next item starts where the blanks behind the comma end.
      obtain ⟨c, behind, same, visible, -⟩ := starts_of_read two
      have text : itemChars depth (next :: later) ++ (newlineChars depth ++ ']' :: rest) =
          ',' :: (newlineChars (depth + 1) ++ c :: behind) := by
        simp [itemChars, ← same]
      rw [same] at all
      rw [text]
      simp only [Bind.bind, Except.bind, skipBlanks_marks, skipBlanks_newlineChars _ visible, all]
      rfl

/-- Members are read from what they are written as, behind the ones before them. -/
theorem readMembers_indentedChars (depth : Nat) (before : Members) (key : String) (held : Json)
    (members : List (String × Json)) (first : held.IsTold) (others : HaveTold members)
    (distinct : ((before ++ (key, held) :: members).map Prod.fst).Nodup) (fuel : Nat)
    (rest : List Char)
    (enough : (indentedChars (depth + 1) held).length + (memberChars depth members).length + 1 <
      fuel) :
    readMembers fuel before (quoteChars key ++ ':' :: ' ' :: (indentedChars (depth + 1) held ++
      (memberChars depth members ++ (newlineChars depth ++ '\x7d' :: rest)))) =
        .ok (before ++ (key, held) :: members, rest) := by
  match fuel with
  | 0 => cases enough
  | fuel + 1 =>
    -- Behind the value comes a comma or the end of a line, where reading it ends.
    have one := readValue_indentedChars (depth + 1) held first fuel _
      (ends_memberChars depth members ('\x7d' :: rest)) (by omega)
    obtain ⟨inner, same, read⟩ := readString_quoteChars key (':' :: ' ' ::
      (indentedChars (depth + 1) held ++
        (memberChars depth members ++ (newlineChars depth ++ '\x7d' :: rest))))
    -- The key is new, so its member comes behind those that are read already.
    have absent : key ∉ before.map Prod.fst := by
      rw [List.map_append, List.map_cons] at distinct
      exact fun member => (List.nodup_append.mp distinct).2.2 key member key List.mem_cons_self rfl
    obtain ⟨c, behind, text, visible, -⟩ := starts_of_read one
    have value : skipBlanks (' ' :: (c :: behind)) = c :: behind := by
      rw [skipBlanks, List.dropWhile_cons_of_pos (by decide),
        List.dropWhile_cons_of_neg (by simp [visible])]
    rw [text] at one
    rw [same, readMembers, read]
    simp only [Bind.bind, Except.bind, skipBlanks_marks, text, value, one, set_of_new absent]
    match members with
    | [] =>
      simp only [memberChars, List.nil_append]
      rw [skipBlanks_newlineChars _ (by decide)]
      rfl
    | (nextKey, nextValue) :: later =>
      rw [HaveTold] at others
      have size : (indentedChars (depth + 1) nextValue).length + (memberChars depth later).length +
          1 < fuel := by
        simp only [memberChars, newlineChars, List.length_append, List.length_cons] at enough
        omega
      have all := readMembers_indentedChars depth (before ++ [(key, held)]) nextKey nextValue later
        others.1 others.2 (by simpa using distinct) fuel rest size
      -- The next key starts with a quote, where the blanks behind the comma end.
      obtain ⟨inner, quoted, -⟩ := readString_quoteChars nextKey (':' :: ' ' ::
        (indentedChars (depth + 1) nextValue ++
          (memberChars depth later ++ (newlineChars depth ++ '\x7d' :: rest))))
      have more : memberChars depth ((nextKey, nextValue) :: later) ++
          (newlineChars depth ++ '\x7d' :: rest) =
            ',' :: (newlineChars (depth + 1) ++ '"' :: inner) := by
        simp [memberChars, ← quoted]
      rw [quoted] at all
      simp only [more, skipBlanks_marks, skipBlanks_newlineChars _ (show isBlank '"' = false from rfl),
        all, List.append_assoc, List.singleton_append]

end

/-- What is written over several lines is read back, if nothing is lost in the text. -/
theorem read_indented_of_told {value : Json} (told : value.IsTold) :
    read value.indented = .ok value := by
  apply read_indented
  have whole := readValue_indentedChars 0 value told (2 * (indentedChars 0 value).length + 2) []
    nofun (by omega)
  rw [List.append_nil] at whole
  -- There are no blanks around the value.
  obtain ⟨c, text, same, visible, -⟩ := starts_of_read whole
  have start : skipBlanks (indentedChars 0 value) = indentedChars 0 value := by
    rw [same, skipBlanks, List.dropWhile_cons_of_neg (by simp [visible])]
  rw [readAll, start, whole]
  rfl

/-- Nothing is lost of items exactly if nothing is lost of each of them. -/
theorem areTold_iff {items : List Json} : AreTold items ↔ ∀ item ∈ items, item.IsTold := by
  -- The items are asked one by one.
  induction items with
  | nil => simp [AreTold]
  | cons item rest ih => simp [AreTold, ih]

/-- Nothing is lost of members exactly if nothing is lost of each of them. -/
theorem haveTold_iff {members : Members} :
    HaveTold members ↔ ∀ member ∈ members, member.2.IsTold := by
  -- The members are asked one by one.
  induction members with
  | nil => simp [HaveTold]
  | cons member rest ih => simp [HaveTold, ih]

mutual

/-- A value that is told by its text can be written. -/
theorem isWritable_of_told (value : Json) (told : value.IsTold) : value.isWritable = true := by
  -- Only whole numbers could have too many digits, and those are told.
  match value with
  | .null | .bool _ | .str _ | .num (.float _) => rfl
  | .num (.int number) => rwa [IsTold] at told
  | .arr items =>
    rw [IsTold] at told
    exact areWritable_of_told items told
  | .obj members =>
    rw [IsTold] at told
    exact haveWritable_of_told members told.2

/-- Items that are told by their texts can be written. -/
theorem areWritable_of_told (items : List Json) (told : AreTold items) :
    areWritable items = true := by
  -- The recursion goes down the list, and into each item.
  match items with
  | [] => rfl
  | item :: rest =>
    rw [AreTold] at told
    simp [areWritable, isWritable_of_told item told.1, areWritable_of_told rest told.2]

/-- Members that are told by their texts can be written. -/
theorem haveWritable_of_told (members : List (String × Json)) (told : HaveTold members) :
    haveWritable members = true := by
  -- The recursion goes down the members, and into each value.
  match members with
  | [] => rfl
  | (key, value) :: rest =>
    rw [HaveTold] at told
    simp [haveWritable, isWritable_of_told value told.1, haveWritable_of_told rest told.2]

end

end Json

end Flowchart
