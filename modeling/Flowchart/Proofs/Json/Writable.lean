import Flowchart.Json.Display
import Flowchart.Json.Reader
import Flowchart.Proofs.Outcome

/-! Values that can be written. A whole number with too many digits stops every writer, and the reader
takes none in. So whatever was read from a text can be written, and what is put together of values
that can be written can be written, too. -/

namespace Flowchart

namespace Decimal

/-- A digit counts less than ten. -/
theorem digitValue_lt {c : Char} (digit : c.isDigit = true) : digitValue c < 10 := by
  simp only [Char.isDigit, Bool.and_eq_true, decide_eq_true_eq, UInt32.le_iff_toNat_le] at digit
  -- Digits stand in a row of ten, from nought on.
  have high : c.toNat ≤ 57 := digit.2
  have zero : '0'.toNat = 48 := rfl
  rw [digitValue, zero]
  omega

/-- A whole number is smaller than the power of ten that has one digit more. -/
theorem wholeOfDigits_lt {digits : List Char} (plain : ∀ c ∈ digits, c.isDigit = true) :
    wholeOfDigits digits < Nat.pow 10 digits.length := by
  -- Each digit that follows the ones before takes the place of a zero.
  have general (before : Nat) :
      digits.foldl (fun n c => 10 * n + digitValue c) before <
        (before + 1) * 10 ^ digits.length := by
    induction digits generalizing before with
    | nil => simp
    | cons c rest ih =>
      have small := digitValue_lt (plain c List.mem_cons_self)
      have later := ih (fun d member => plain d (List.mem_cons_of_mem _ member))
        (10 * before + digitValue c)
      rw [List.foldl_cons, List.length_cons, Nat.pow_succ']
      calc _ < (10 * before + digitValue c + 1) * 10 ^ rest.length := later
        _ ≤ (10 * (before + 1)) * 10 ^ rest.length := Nat.mul_le_mul_right _ (by omega)
        _ = (before + 1) * (10 * 10 ^ rest.length) := by rw [Nat.mul_comm 10, Nat.mul_assoc]
  rw [Nat.pow_eq]
  simpa [wholeOfDigits] using general 0

end Decimal

namespace Json

section Writers

variable {value : Json} {write : Json → String} {text : String}

/-- A value that can be written comes to the text of the writer. -/
theorem writtenBy_of_writable (writable : value.isWritable = true) :
    value.writtenBy write = .ok (write value) := if_pos writable

/-- A text comes of no value but one that can be written. -/
theorem writtenBy_eq_ok :
    value.writtenBy write = .ok text ↔ value.isWritable = true ∧ write value = text := by
  -- The limit is all that can stop a writer.
  unfold writtenBy
  split <;> simp_all

/-- Where no text comes of a value, there are too many digits in it. -/
theorem writtenBy_eq_error {reason : Unwritable} (failed : value.writtenBy write = .error reason) :
    value.isWritable = false ∧ reason = .tooManyDigits := by
  unfold writtenBy at failed
  -- Too many digits are the only reason for a writer to give up.
  split at failed
  · cases failed
  · rename_i unwritable
    exact ⟨Bool.eq_false_iff.mpr unwritable, (Except.error.inj failed).symm⟩

/-- No text comes of any other value. -/
theorem writtenBy_of_unwritable (unwritable : value.isWritable = false) :
    value.writtenBy write = .error .tooManyDigits := if_neg (Bool.eq_false_iff.mp unwritable)

/-- A value is shown as it is, if it can be written. -/
theorem display_eq_ok : value.display = .ok text ↔ value.isWritable = true ∧ value.bare = text :=
  writtenBy_eq_ok

/-- A text is shown as it is. -/
@[simp] theorem display_str (text : String) : (Json.str text).display = .ok text := rfl

/-- A whole number of a few digits can be written. -/
theorem isWritable_int {size : Int} (small : size.natAbs < 1000) :
    (Json.int size).isWritable = true := by
  have within : 3 ≤ maxDigits := by decide
  rw [isWritable, hasTooManyDigits, Nat.pow_eq, Bool.not_eq_true', decide_eq_false_iff_not,
    Nat.not_le]
  -- The power of ten at the limit is never worked out.
  generalize maxDigits = limit at within ⊢
  have enough : Nat.pow 10 3 ≤ Nat.pow 10 limit := Nat.pow_le_pow_right (by decide) within
  exact Nat.lt_of_lt_of_le small enough

end Writers

section Parts

variable {items : List Json} {members : Members} {key : String}

/-- A list can be written if its items can. -/
theorem areWritable_iff : areWritable items = true ↔ ∀ item ∈ items, item.isWritable = true := by
  -- The items are asked one by one.
  induction items with
  | nil => simp [areWritable]
  | cons item rest ih => simp [areWritable, ih]

/-- An object can be written if its members can. -/
theorem haveWritable_iff :
    haveWritable members = true ↔ ∀ member ∈ members, member.2.isWritable = true := by
  -- The members are asked one by one.
  induction members with
  | nil => simp [haveWritable]
  | cons member rest ih => simp [haveWritable, ih]

/-- What stands in an object that can be written can be written. -/
theorem isWritable_of_get? {value : Json} (writable : haveWritable members = true)
    (found : members.get? key = some value) : value.isWritable = true := by
  -- What is found under a key is the value of some member.
  obtain ⟨member, first, rfl⟩ := Option.map_eq_some_iff.mp found
  exact haveWritable_iff.mp writable member (List.mem_of_find?_eq_some first)

/-- What is under a key of an object that can be written can be written, be it nothing. -/
theorem isWritable_getOrNull (key : String) (writable : haveWritable members = true) :
    (members.getOrNull key).isWritable = true := by
  -- A key that is missing gives null, which can be written.
  rw [Members.getOrNull]
  cases found : members.get? key with
  | none => rfl
  | some value => exact isWritable_of_get? writable found

/-- A value that can be written is put into an object that can. -/
theorem haveWritable_set {value : Json} (key : String) (writable : haveWritable members = true)
    (given : value.isWritable = true) : haveWritable (members.set key value) = true := by
  -- The value is put in the place of another one or behind all.
  induction members with
  | nil => simp [Members.set, haveWritable, given]
  | cons member rest ih =>
    simp only [haveWritable, Bool.and_eq_true] at writable
    rw [Members.set]
    split
    · simp [haveWritable, given, writable.2]
    · simp [haveWritable, writable.1, ih writable.2]

/-- A text or null can be written. -/
@[simp] theorem isWritable_ofText? (text : Option String) : (ofText? text).isWritable = true := by
  cases text <;> rfl

end Parts

mutual

/-- Doubles have no part in what can be written. -/
theorem isWritable_finite (value : Json) : value.finite.isWritable = value.isWritable := by
  -- The recursion is that of the values, and doubles are where the two differ.
  match value with
  | .num (.float x) =>
    rw [finite]
    split <;> rfl
  | .num (.int _) | .null | .bool _ | .str _ => rfl
  | .arr items => simpa [finite, isWritable] using areWritable_finiteItems items
  | .obj members => simpa [finite, isWritable] using haveWritable_finiteMembers members

/-- Doubles among the items have no part in it. -/
theorem areWritable_finiteItems (items : List Json) :
    areWritable (finiteItems items) = areWritable items := by
  -- Doubles become null or stay, and whole numbers stay.
  match items with
  | [] => rfl
  | item :: rest =>
    simp [finiteItems, areWritable, isWritable_finite item, areWritable_finiteItems rest]

/-- Doubles among the members have no part in it. -/
theorem haveWritable_finiteMembers (members : List (String × Json)) :
    haveWritable (finiteMembers members) = haveWritable members := by
  -- Doubles become null or stay, and whole numbers stay.
  match members with
  | [] => rfl
  | (key, value) :: rest =>
    simp [finiteMembers, haveWritable, isWritable_finite value, haveWritable_finiteMembers rest]

end

section Readers

variable {text rest : List Char}

/-- Digits are all that is read of a whole number. -/
theorem readWhole_isDigit : ∀ c ∈ (readWhole text).1, c.isDigit = true := by
  -- A zero stands alone, and any other whole part is a run of digits.
  unfold readWhole
  split
  · exact List.forall_mem_singleton.mpr rfl
  · exact fun c member => List.all_eq_true.mp List.all_takeWhile c member

/-- A whole number that is told in few enough digits can be written, whatever its sign. -/
theorem isWritable_of_digits {digits : List Char} (plain : ∀ c ∈ digits, c.isDigit = true)
    (few : digits.length ≤ maxDigits) (negative : Bool) :
    let size : Int := Decimal.wholeOfDigits digits
    (Json.int (if negative then -size else size)).isWritable = true := by
  intro size
  have absolute : (if negative then -size else size).natAbs = Decimal.wholeOfDigits digits := by
    cases negative with
    | true => exact (Int.natAbs_neg _).trans (Int.natAbs_natCast _)
    | false => exact Int.natAbs_natCast _
  rw [isWritable, hasTooManyDigits, absolute, Nat.pow_eq, Bool.not_eq_true',
    decide_eq_false_iff_not, Nat.not_le]
  -- Any limit would do, and the power of ten is never worked out.
  generalize maxDigits = limit at few ⊢
  exact Nat.lt_of_lt_of_le (Decimal.wholeOfDigits_lt plain)
    (Nat.pow_le_pow_right (by decide) few)

/-- A number that is read can be written. -/
theorem readNumber_isWritable {number : Number} (came : readNumber text = .ok (number, rest)) :
    (Json.num number).isWritable = true := by
  unfold readNumber at came
  dsimp only at came
  split_ifs at came with missing whole many negative
  · -- The digits of a whole number are counted before they are put together.
    obtain ⟨same, -⟩ := Prod.mk.inj (Except.ok.inj came)
    rw [← same]
    exact isWritable_of_digits readWhole_isDigit (Nat.not_lt.mp many) true
  · obtain ⟨same, -⟩ := Prod.mk.inj (Except.ok.inj came)
    rw [← same]
    exact isWritable_of_digits readWhole_isDigit (Nat.not_lt.mp many) false
  -- A float has as many digits as its format gives it.
  · obtain ⟨same, -⟩ := Prod.mk.inj (Except.ok.inj came)
    rw [← same]
    rfl

/-- A word that is read can be written. -/
theorem readWord?_isWritable {value : Json} (came : readWord? text = some (value, rest)) :
    value.isWritable = true := by
  -- No word stands for a whole number.
  obtain ⟨word, first, same⟩ := Option.map_eq_some_iff.mp came
  cases same
  have each : ∀ word ∈ words, word.2.isWritable = true := by simp [words, isWritable]
  exact each word (List.mem_of_find?_eq_some first)

mutual

/-- A value that is read can be written. -/
theorem readValue_isWritable (fuel : Nat) (text : List Char) {value : Json} {rest : List Char}
    (came : readValue fuel text = .ok (value, rest)) : value.isWritable = true := by
  -- The recursion is the reader's, on its fuel.
  match fuel with
  | 0 => cases came
  | fuel + 1 =>
    unfold readValue at came
    -- A string holds no number, lists and objects hold what was read before, and words are no whole
    -- numbers.
    split at came
    · obtain ⟨⟨content, after⟩, -, same⟩ := bind_eq_ok.mp came
      cases same
      rfl
    · split at came
      · cases came
        rfl
      · obtain ⟨⟨items, after⟩, read, same⟩ := bind_eq_ok.mp came
        cases same
        exact readItems_areWritable fuel _ read
    · split at came
      · cases came
        rfl
      · obtain ⟨⟨members, after⟩, read, same⟩ := bind_eq_ok.mp came
        cases same
        exact readMembers_haveWritable fuel [] _ rfl read
    · split at came
      · rename_i found
        cases came
        exact readWord?_isWritable found
      · obtain ⟨⟨number, after⟩, read, same⟩ := bind_eq_ok.mp came
        cases same
        exact readNumber_isWritable read

/-- Items that are read can be written. -/
theorem readItems_areWritable (fuel : Nat) (text : List Char) {items : List Json}
    {rest : List Char} (came : readItems fuel text = .ok (items, rest)) :
    areWritable items = true := by
  match fuel with
  | 0 => cases came
  | fuel + 1 =>
    unfold readItems at came
    obtain ⟨⟨item, after⟩, read, next⟩ := bind_eq_ok.mp came
    -- The first item was read on its own, and the recursion reads the others.
    have first : item.isWritable = true := readValue_isWritable fuel text read
    dsimp only at next
    split at next
    · cases next
      simp [areWritable, first]
    · obtain ⟨⟨items, last⟩, read, same⟩ := bind_eq_ok.mp next
      cases same
      simp [areWritable, first, readItems_areWritable fuel _ read]
    · cases next

/-- Members that are read can be written, together with the ones before them. -/
theorem readMembers_haveWritable (fuel : Nat) (before : Members) (text : List Char)
    {members : Members} {rest : List Char} (writable : haveWritable before = true)
    (came : readMembers fuel before text = .ok (members, rest)) : haveWritable members = true := by
  match fuel with
  | 0 => cases came
  | fuel + 1 =>
    unfold readMembers at came
    split at came
    · obtain ⟨⟨key, after⟩, -, next⟩ := bind_eq_ok.mp came
      dsimp only at next
      split at next
      · obtain ⟨⟨value, after⟩, read, next⟩ := bind_eq_ok.mp next
        -- The value that was read is set among those before it, so all of them can be written.
        have put := haveWritable_set key writable (readValue_isWritable fuel _ read)
        dsimp only at next
        split at next
        · cases next
          exact put
        · exact readMembers_haveWritable fuel _ _ put next
        · cases next
      · cases next
    · cases came

end

/-- A value that is read as the whole of a text can be written. -/
theorem readAll_isWritable {value : Json} (came : readAll text = .ok value) :
    value.isWritable = true := by
  obtain ⟨⟨found, after⟩, read, next⟩ := bind_eq_ok.mp came
  -- Behind the value there may be blanks only, which change nothing about it.
  have writable : found.isWritable = true := readValue_isWritable _ _ read
  dsimp only at next
  split at next
  · cases next
    exact writable
  · cases next

/-- A text is located only if it was read. -/
theorem readAll_of_located {outcome : Except Stop Json} {value : Json}
    (came : located text outcome = .ok value) : outcome = .ok value := by
  unfold located at came
  -- A place is only looked up for a failure.
  split at came
  · exact congrArg Except.ok (Except.ok.inj came)
  · cases came
  · cases came

end Readers

/-- Whatever is read from a text can be written. -/
theorem isWritable_of_read {text : String} {value : Json} (came : read text = .ok value) :
    value.isWritable = true := by
  unfold read at came
  dsimp only at came
  -- A text that starts with a mark for its encoding is refused.
  split at came
  · cases readAll_of_located came
  · exact readAll_isWritable (readAll_of_located came)

/-- Whatever is read from a text of bytes can be written. -/
theorem isWritable_of_readDecoded {text : String} {value : Json}
    (came : readDecoded text = .ok value) : value.isWritable = true :=
  readAll_isWritable (readAll_of_located came)

end Json

end Flowchart
