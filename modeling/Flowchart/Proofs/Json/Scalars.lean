import Mathlib.Data.List.Find
import Flowchart.Proofs.Json.Members
import Flowchart.Proofs.Json.Writable
import Flowchart.Proofs.Json.Written

/-! Texts and numbers are read back from the characters that they are written as, whatever comes
behind them, as long as that cannot be taken for more of a number. -/

namespace Flowchart

namespace Json

section Strings

/-- The reader knows the digits of the writer. -/
theorem hexValue?_digitChar : ∀ value < 16, hexValue? (hexDigit value) = some value := by decide

/-- A code unit is read from its escape. -/
theorem readUnit?_escape {unit : Nat} (small : unit < 0x10000) (rest : List Char) :
    readUnit? (hexDigit (unit / 4096 % 16) :: hexDigit (unit / 256 % 16) ::
      hexDigit (unit / 16 % 16) :: hexDigit (unit % 16) :: rest) = some (unit, rest) := by
  -- Four digits of base sixteen stand for the unit that they are written of.
  have digit (value : Nat) : hexValue? (hexDigit (value % 16)) = some (value % 16) :=
    hexValue?_digitChar _ (Nat.mod_lt _ (by decide))
  have whole : ((unit / 4096 % 16 * 16 + unit / 256 % 16) * 16 + unit / 16 % 16) * 16 +
      unit % 16 = unit := by omega
  simp [readUnit?, digit, whole]

/-- A code unit is written as a backslash, a letter and four digits. -/
theorem escapeUnit_toList (unit : Nat) :
    (escapeUnit unit).toList = ['\\', 'u', hexDigit (unit / 4096 % 16), hexDigit (unit / 256 % 16),
      hexDigit (unit / 16 % 16), hexDigit (unit % 16)] := String.toList_ofList

/-- The number of a character is no half of a pair. -/
theorem not_isSurrogate (c : Char) :
    isHighSurrogate c.toNat = false ∧ isLowSurrogate c.toNat = false := by
  -- A character is never a surrogate, by what its type promises.
  have valid : c.toNat < 0xD800 ∨ 0xDFFF < c.toNat ∧ c.toNat < 0x110000 := c.valid
  simp only [isHighSurrogate, isLowSurrogate, Bool.and_eq_false_iff, decide_eq_false_iff_not]
  omega

/-- A character that fits into one code unit is read from its escape. -/
theorem readUnicodeEscape_unit {c : Char} (small : c.toNat < 0x10000) (letter : List Char)
    {rest : List Char} (more : rest ≠ []) :
    readUnicodeEscape letter (hexDigit (c.toNat / 4096 % 16) :: hexDigit (c.toNat / 256 % 16) ::
      hexDigit (c.toNat / 16 % 16) :: hexDigit (c.toNat % 16) :: rest) = .ok (c, rest) := by
  -- The unit is no half of a pair, so nothing more is read for it.
  obtain ⟨high, low⟩ := not_isSurrogate c
  simp [readUnicodeEscape, readUnit?_escape small, high, low, more, unitChar, Char.ofNat_toNat]

/-- Any other character is read from the escapes of a pair. -/
theorem readUnicodeEscape_pair {c : Char} (large : 0x10000 ≤ c.toNat) (letter : List Char)
    {rest : List Char} (more : rest ≠ []) :
    let high := 0xD800 + (c.toNat - 0x10000) / 0x400
    let low := 0xDC00 + (c.toNat - 0x10000) % 0x400
    readUnicodeEscape letter (hexDigit (high / 4096 % 16) :: hexDigit (high / 256 % 16) ::
      hexDigit (high / 16 % 16) :: hexDigit (high % 16) ::
        ((escapeUnit low).toList ++ rest)) = .ok (c, rest) := by
  intro high low
  -- Beyond the first plane a character is split over two surrogates, which are put together again.
  have valid : c.toNat < 0xD800 ∨ 0xDFFF < c.toNat ∧ c.toNat < 0x110000 := c.valid
  have opens : isHighSurrogate high = true := by
    simp only [isHighSurrogate, Bool.and_eq_true, decide_eq_true_eq]
    omega
  have closes : isLowSurrogate low = true := by
    simp only [isLowSurrogate, Bool.and_eq_true, decide_eq_true_eq]
    omega
  have whole : pairChar high low = c := by
    rw [pairChar, show 0x10000 + (high - 0xD800) * 0x400 + (low - 0xDC00) = c.toNat by omega]
    exact Char.ofNat_toNat c
  -- The second escape comes right behind the first one.
  have first := readUnit?_escape (show high < 0x10000 by omega) ((escapeUnit low).toList ++ rest)
  have second := readUnit?_escape (show low < 0x10000 by omega) rest
  rw [escapeUnit_toList] at first ⊢
  simp only [List.cons_append, List.nil_append] at first second ⊢
  simp [readUnicodeEscape, first, second, opens, closes, whole, more]

variable {opening budget : List Char}

/-- One character is read from what it is written as. -/
theorem readString_escapeChar (spare c : Char) (read : List Char) {rest : List Char}
    (more : rest ≠ []) :
    readString opening (spare :: budget) read ((escapeChar c).toList ++ rest) =
      readString opening budget (c :: read) rest := by
  unfold escapeChar
  -- Seven characters have an escape of their own, and the reader takes each of them back at once.
  split
  case h_8 quote backslash newline carriage tab backspace feed =>
    dsimp only
    split
    · -- A printable character stands for itself.
      next printable =>
      have visible : ¬ c ≤ '\x1f' := by
        rw [Char.le_def, UInt32.le_iff_toNat_le]
        exact Nat.not_le.mpr (show 0x1f < c.toNat by omega)
      rw [Char.toString, String.toList_singleton, List.singleton_append, readString]
      · rw [if_neg visible]
      · exact quote
      · exact backslash
    · split
      · next small =>
        rw [escapeUnit_toList]
        simp only [List.cons_append, List.nil_append]
        rw [readString, readUnicodeEscape_unit small _ more]
      · next large =>
        -- A character beyond the first plane is written as two escapes.
        have pair := readUnicodeEscape_pair (Nat.not_lt.mp large)
        rw [String.toList_append, escapeUnit_toList, List.append_assoc]
        simp only [List.cons_append, List.nil_append]
        rw [readString, pair _ more]
  all_goals rfl

/-- A string is read from what it is written as, up to its closing quote. -/
theorem readString_chars (chars read rest : List Char) (enough : chars.length < budget.length) :
    readString opening budget read ((chars.flatMap fun c => (escapeChar c).toList) ++ '"' :: rest) =
      .ok (String.ofList (read.reverse ++ chars), rest) := by
  -- The reader goes on by one character, and uses up one of its budget.
  induction chars generalizing read budget with
  | nil =>
    cases budget with
    | nil => cases enough
    | cons spare budget => simp [readString]
  | cons c others ih =>
    cases budget with
    | nil => cases enough
    | cons spare budget =>
      rw [List.flatMap_cons, List.append_assoc, readString_escapeChar _ _ _ (by simp),
        ih _ (by simpa using enough), List.reverse_cons, List.append_assoc, List.singleton_append]

/-- A character is written as one character at least. -/
theorem escapeChar_length_pos (c : Char) : 0 < (escapeChar c).toList.length := by
  unfold escapeChar
  -- Escapes have two letters at least, and any other character stands for itself.
  split
  case h_8 =>
    dsimp only
    split
    · simp [Char.toString]
    · split <;> simp [escapeUnit_toList]
  all_goals decide

/-- Characters are written as as many at least. -/
theorem length_le_written (chars : List Char) :
    chars.length ≤ (chars.flatMap fun c => (escapeChar c).toList).length := by
  -- Each character takes up one letter or more.
  induction chars with
  | nil => exact Nat.le_refl _
  | cons c rest ih =>
    have one := escapeChar_length_pos c
    rw [List.flatMap_cons, List.length_append, List.length_cons]
    omega

/-- A string in quotes is read behind its opening quote. -/
theorem readString_quoteChars (text : String) (rest : List Char) :
    ∃ inner, quoteChars text ++ rest = '"' :: inner ∧
      ∀ opening, readString opening inner [] inner = .ok (text, rest) := by
  let written := text.toList.flatMap fun c => (escapeChar c).toList
  -- The reader has all that is behind the quote as its budget, which is more than the text has
  -- letters.
  have enough : text.toList.length < (written ++ '"' :: rest).length := by
    have least : text.toList.length ≤ written.length := length_le_written text.toList
    rw [List.length_append, List.length_cons]
    omega
  refine ⟨written ++ '"' :: rest, by simp [quoteChars, written], fun opening => ?_⟩
  rw [readString_chars _ _ _ enough, List.reverse_nil, List.nil_append, String.ofList_toList]

end Strings

/-- What comes behind a part of a value: nothing, or a comma or the end of a line. -/
def Ends (rest : List Char) : Prop := ∀ c ∈ rest.head?, c = ',' ∨ c = '\n'

section Numbers

variable {rest : List Char}

/-- Nothing behind a part is one of its characters, whatever characters these are. -/
theorem Ends.while_append (ends : Ends rest) {inside : Char → Bool} (comma : inside ',' = false)
    (line : inside '\n' = false) (text : List Char) :
    (text ++ rest).takeWhile inside = text.takeWhile inside ∧
      (text ++ rest).dropWhile inside = text.dropWhile inside ++ rest := by
  induction text with
  | nil =>
    cases rest with
    | nil => exact ⟨rfl, rfl⟩
    | cons c others =>
      -- The first character is one of two, and neither is inside.
      obtain rfl | rfl := ends c rfl
      · simp [comma]
      · simp [line]
  | cons c text ih =>
    cases held : inside c with
    | true => simpa [held] using ih
    | false => simp [held]

/-- No digit comes behind a number. -/
theorem Ends.digits (ends : Ends rest) (text : List Char) :
    (text ++ rest).takeWhile Char.isDigit = text.takeWhile Char.isDigit ∧
      (text ++ rest).dropWhile Char.isDigit = text.dropWhile Char.isDigit ++ rest :=
  ends.while_append (by decide) (by decide) text

/-- What comes behind is not read as more of the digits of a whole number. -/
theorem readWhole_append (ends : Ends rest) (text : List Char) :
    readWhole (text ++ rest) = ((readWhole text).1, (readWhole text).2 ++ rest) := by
  -- What ends a number is no digit, so no digits are found where there were none.
  cases text with
  | nil =>
    cases rest with
    | nil => rfl
    | cons c others => obtain rfl | rfl := ends c rfl <;> rfl
  | cons c text =>
    obtain ⟨taken, dropped⟩ := ends.digits (c :: text)
    by_cases zero : c = '0'
    · subst zero
      rfl
    · simp only [List.cons_append] at taken dropped ⊢
      simp [readWhole, zero, taken, dropped]

/-- What comes behind is not read as more of a fraction. -/
theorem readFraction_append (ends : Ends rest) (text : List Char) :
    readFraction (text ++ rest) = ((readFraction text).1, (readFraction text).2 ++ rest) := by
  -- What ends a number is no point either.
  cases text with
  | nil =>
    cases rest with
    | nil => rfl
    | cons c others => obtain rfl | rfl := ends c rfl <;> rfl
  | cons c text =>
    obtain ⟨taken, dropped⟩ := ends.digits text
    by_cases point : c = '.'
    · subst point
      simp only [List.cons_append, readFraction, taken, dropped]
      split <;> rfl
    · simp [readFraction, point]

/-- What comes behind is not read as a sign. -/
theorem splitSign_append (ends : Ends rest) (text : List Char) :
    Decimal.splitSign (text ++ rest) =
      ((Decimal.splitSign text).1, (Decimal.splitSign text).2 ++ rest) := by
  -- What ends a number is no sign either.
  cases text with
  | nil =>
    cases rest with
    | nil => rfl
    | cons c others => obtain rfl | rfl := ends c rfl <;> rfl
  | cons c text =>
    rw [List.cons_append]
    unfold Decimal.splitSign
    split <;> split <;> simp_all

/-- What comes behind is not read as more of a power of ten. -/
theorem readPower_append (ends : Ends rest) (text : List Char) :
    readPower (text ++ rest) = ((readPower text).1, (readPower text).2 ++ rest) := by
  -- What ends a number does not start a power of ten.
  cases text with
  | nil =>
    cases rest with
    | nil => rfl
    | cons c others => obtain rfl | rfl := ends c rfl <;> rfl
  | cons c text =>
    obtain ⟨taken, dropped⟩ := ends.digits (Decimal.splitSign text).2
    simp only [List.cons_append, readPower, splitSign_append ends, taken, dropped]
    split_ifs <;> rfl

/-- The sign of a number, and what is behind it. -/
def splitMinus (text : List Char) : Bool × List Char :=
  match text with
  | '-' :: rest => (true, rest)
  | _ => (false, text)

/-- A number is read behind its sign. -/
theorem readNumber_eq (text : List Char) :
    readNumber text =
      let (negative, body) := splitMinus text
      let (whole, rest) := readWhole body
      if whole = [] then .error (.fault .expectingValue text)
      else
        let (fraction, rest) := readFraction rest
        let (power, rest) := readPower rest
        if fraction = [] ∧ power = none then
          if maxDigits < whole.length then .error (.tooManyDigits whole.length)
          else
            let size : Int := Decimal.wholeOfDigits whole
            .ok (.int (if negative then -size else size), rest)
        else
          let value := Decimal.ofParts whole fraction (power.getD 0)
          .ok (.float (value.toSignedFloat negative), rest) := rfl

/-- What comes behind is not read as a sign of its own. -/
theorem splitMinus_append {text : List Char} (nonempty : text ≠ []) :
    splitMinus (text ++ rest) = ((splitMinus text).1, (splitMinus text).2 ++ rest) := by
  -- The sign is the first letter, and the text has one.
  cases text with
  | nil => exact absurd rfl nonempty
  | cons c text =>
    rw [List.cons_append]
    unfold splitMinus
    split <;> split <;> simp_all

/-- A number is read whatever comes behind it. -/
theorem readNumber_append (ends : Ends rest) {text after : List Char} {number : Number}
    (came : readNumber text = .ok (number, after)) :
    readNumber (text ++ rest) = .ok (number, after ++ rest) := by
  have nonempty : text ≠ [] := by
    rintro rfl
    cases came
  -- Each part of the number ends where it ended before.
  simp only [readNumber_eq, splitMinus_append nonempty, readWhole_append ends,
    readFraction_append ends, readPower_append ends] at came ⊢
  split_ifs at came ⊢ <;> simp_all

/-- The digits of a whole number start with a zero only if it is zero. -/
theorem head_toDigits {size : Nat} (positive : 0 < size) :
    ∃ c digits, Nat.toDigits 10 size = c :: digits ∧ c ≠ '0' := by
  -- The last digit is told after all others, so the first one is found by dividing.
  induction size using Nat.strongRecOn with
  | ind size ih =>
    by_cases small : size < 10
    · exact ⟨_, [], Nat.toDigits_of_lt_base small, by simpa using Nat.pos_iff_ne_zero.mp positive⟩
    · obtain ⟨c, digits, same, apart⟩ := ih (size / 10) (by omega) (by omega)
      refine ⟨c, digits ++ [(size % 10).digitChar], ?_, apart⟩
      rw [Nat.toDigits_of_base_le (by decide) (by omega), same, List.cons_append]

/-- The digits of a whole number start with a digit. -/
theorem toDigits_eq_cons (size : Nat) :
    ∃ c digits, Nat.toDigits 10 size = c :: digits ∧ c.isDigit = true := by
  -- A number has one digit at least.
  cases same : Nat.toDigits 10 size with
  | nil => exact absurd same (List.ne_nil_of_length_pos Nat.length_toDigits_pos)
  | cons c digits =>
    have member : c ∈ Nat.toDigits 10 size := by simp [same]
    exact ⟨c, digits, rfl, Nat.isDigit_of_mem_toDigits (by decide) (by decide) member⟩

/-- The digits of a whole number are read. -/
theorem readWhole_toDigits (size : Nat) (ends : Ends rest) :
    readWhole (Nat.toDigits 10 size ++ rest) = (Nat.toDigits 10 size, rest) := by
  have digits : ∀ c ∈ Nat.toDigits 10 size, c.isDigit = true := fun c member =>
    Nat.isDigit_of_mem_toDigits (by decide) (by decide) member
  -- Only nought starts with a nought, so a number is read to the end of its digits.
  have alone : readWhole (Nat.toDigits 10 size) = (Nat.toDigits 10 size, []) := by
    rcases Nat.eq_zero_or_pos size with rfl | positive
    · rfl
    · obtain ⟨c, others, same, apart⟩ := head_toDigits positive
      have all : (Nat.toDigits 10 size).takeWhile Char.isDigit = Nat.toDigits 10 size ∧
          (Nat.toDigits 10 size).dropWhile Char.isDigit = [] := by
        have taken : (Nat.toDigits 10 size ++ []).takeWhile Char.isDigit = _ :=
          List.takeWhile_append_of_pos digits
        have dropped : (Nat.toDigits 10 size ++ []).dropWhile Char.isDigit = _ :=
          List.dropWhile_append_of_pos digits
        simpa using And.intro taken dropped
      rw [same] at all ⊢
      simp [readWhole, apart, all]
  rw [readWhole_append ends, alone, List.nil_append]

/-- Digits stand for the number that they are the digits of. -/
theorem wholeOfDigits_toDigits (size : Nat) :
    Decimal.wholeOfDigits (Nat.toDigits 10 size) = size :=
  Nat.ofDigitChars_toDigits (by decide) (by decide)

/-- A whole number that can be written has few enough digits to be read. -/
theorem length_toDigits_le {value : Int} (writable : (Json.int value).isWritable = true) :
    (Nat.toDigits 10 value.natAbs).length ≤ maxDigits := by
  rw [isWritable, hasTooManyDigits, Nat.pow_eq, Bool.not_eq_true', decide_eq_false_iff_not,
    Nat.not_le] at writable
  have some : 0 < maxDigits := by decide
  -- The bound is a power of ten that must not be computed.
  generalize maxDigits = limit at writable some ⊢
  exact (Nat.length_toDigits_le_iff (by decide) some).mpr writable

/-- A whole number that can be written is read back. -/
theorem readNumber_int {value : Int} (writable : (Json.int value).isWritable = true)
    (ends : Ends rest) :
    readNumber (((Number.int value).render spelling).toList ++ rest) = .ok (.int value, rest) := by
  have few := length_toDigits_le writable
  -- Nothing that would make a double of it comes behind the digits.
  have fraction : readFraction rest = ([], rest) := readFraction_append ends []
  have power : readPower rest = (none, rest) := readPower_append ends []
  have nonempty (size : Nat) : Nat.toDigits 10 size ≠ [] :=
    List.ne_nil_of_length_pos Nat.length_toDigits_pos
  -- No digit is a sign.
  have digits (size : Nat) : splitMinus (Nat.toDigits 10 size ++ rest) =
      (false, Nat.toDigits 10 size ++ rest) := by
    obtain ⟨c, others, same, digit⟩ := toDigits_eq_cons size
    rw [same, List.cons_append]
    unfold splitMinus
    split
    · next minus =>
      cases minus
      exact absurd digit (by decide)
    · rfl
  rw [readNumber_eq]
  -- Below nought a sign stands in front of the digits.
  cases value with
  | ofNat size =>
    have text : ((Number.int (.ofNat size)).render spelling).toList = Nat.toDigits 10 size :=
      Nat.toList_repr
    rw [text, digits]
    simp only [readWhole_toDigits size ends, nonempty, fraction, power, if_false, and_self, if_true,
      wholeOfDigits_toDigits]
    exact if_neg (Nat.not_lt.mpr few)
  | negSucc size =>
    have text : ((Number.int (.negSucc size)).render spelling).toList =
        '-' :: Nat.toDigits 10 (size + 1) := by
      rw [show (Number.int (.negSucc size)).render spelling = "-" ++ (size + 1).repr from rfl,
        String.toList_append, Nat.toList_repr]
      rfl
    rw [text, List.cons_append, splitMinus]
    simp only [readWhole_toDigits (size + 1) ends, nonempty, fraction, power, if_false, and_self,
      if_true, wholeOfDigits_toDigits]
    exact if_neg (Nat.not_lt.mpr few)

end Numbers

section Scalars

variable {rest : List Char}

/-- What comes behind is not read as more of a word. -/
theorem isPrefixOf_append (ends : Ends rest) {word : List Char} (comma : ',' ∉ word)
    (line : '\n' ∉ word) (text : List Char) :
    word.isPrefixOf (text ++ rest) = word.isPrefixOf text := by
  induction word generalizing text with
  | nil => simp
  | cons letter word ih =>
    rw [List.mem_cons, not_or] at comma line
    cases text with
    | nil =>
      cases rest with
      | nil => rfl
      | cons c others =>
        -- What comes behind starts with no letter of a word.
        obtain rfl | rfl := ends c rfl
        · simp [List.isPrefixOf, Ne.symm comma.1]
        · simp [List.isPrefixOf, Ne.symm line.1]
    | cons c text => simp [List.isPrefixOf, ih comma.2 line.2]

/-- A word is read whatever comes behind it. -/
theorem readWord?_append (ends : Ends rest) (text : List Char) :
    readWord? (text ++ rest) = (readWord? text).map fun found => (found.1, found.2 ++ rest) := by
  -- No word holds a comma or the end of a line, so none reaches beyond the text.
  have plain : ∀ word ∈ words, ',' ∉ word.1 ∧ '\n' ∉ word.1 := by simp [words]
  have same : words.find? (fun word => word.1.isPrefixOf (text ++ rest)) =
      words.find? fun word => word.1.isPrefixOf text := by
    refine List.find?_congr fun word listed => ?_
    exact isPrefixOf_append ends (plain word listed).1 (plain word listed).2 text
  rw [readWord?, readWord?, same, Option.map_map]
  cases found : words.find? fun word => word.1.isPrefixOf text with
  | none => rfl
  | some word =>
    have first := List.find?_some found
    have short := (List.isPrefixOf_iff_prefix.mp first).length_le
    simp [List.drop_append_of_le_length short]

/-- A number or a word is read behind its first character. -/
theorem readValue_eq {c : Char} {text : List Char} (string : c ≠ '"') (list : c ≠ '[')
    (object : c ≠ '\x7b') (fuel : Nat) :
    readValue (fuel + 1) (c :: text) =
      match readWord? (c :: text) with
      | some found => .ok found
      | none => do
        let (value, rest) ← readNumber (c :: text)
        return (.num value, rest) := by
  -- A quote and an opening bracket have their own cases, which this letter does not come to.
  unfold readValue
  split
  case h_1 same => exact absurd (List.cons.inj same).1 string
  case h_2 same => exact absurd (List.cons.inj same).1 list
  case h_3 same => exact absurd (List.cons.inj same).1 object
  case h_4 => rfl

/-- A text starts like a value: with no blank, and with nothing that ends a list. -/
def Starts (text : List Char) : Prop := ∃ c rest, text = c :: rest ∧ isBlank c = false ∧ c ≠ ']'

/-- Only a text that starts like a value is read as one. -/
theorem starts_of_read {fuel : Nat} {text after : List Char} {value : Json}
    (came : readValue fuel text = .ok (value, after)) : Starts text := by
  -- Nothing is read without fuel or without a text.
  cases fuel with
  | zero => cases came
  | succ fuel =>
    cases text with
    | nil => cases came
    | cons c text =>
      refine ⟨c, text, rfl, ?_, ?_⟩
      · -- A blank is neither a quote, nor a bracket, nor a digit.
        by_contra blank
        simp only [Bool.not_eq_false, isBlank, Bool.or_eq_true, decide_eq_true_eq] at blank
        obtain ((rfl | rfl) | rfl) | rfl := blank <;> cases came
      · rintro rfl
        cases came

/-- A number that is read to its end is read whatever comes behind it. -/
theorem readValue_append (ends : Ends rest) {text : List Char} {number : Number}
    (came : readValue 1 text = .ok (.num number, [])) (fuel : Nat) :
    readValue (fuel + 1) (text ++ rest) = .ok (.num number, rest) := by
  cases text with
  | nil => cases came
  | cons c text =>
    -- What was read is a number, so the text starts neither a string nor a list nor an object.
    have string : c ≠ '"' := by
      rintro rfl
      obtain ⟨read, -, same⟩ := bind_eq_ok.mp came
      cases same
    have list : c ≠ '[' := by
      rintro rfl
      rw [readValue] at came
      split at came
      · cases came
      · obtain ⟨read, items, -⟩ := bind_eq_ok.mp came
        cases items
    have object : c ≠ '\x7b' := by
      rintro rfl
      rw [readValue] at came
      split at came
      · cases came
      · obtain ⟨read, members, -⟩ := bind_eq_ok.mp came
        cases members
    -- Either a word is read or digits, and both end where the text ends.
    have word := readWord?_append ends (c :: text)
    rw [readValue_eq string list object] at came
    rw [List.cons_append] at word ⊢
    rw [readValue_eq string list object, word]
    cases known : readWord? (c :: text) with
    | some found =>
      rw [known] at came
      cases came
      rfl
    | none =>
      rw [known] at came
      obtain ⟨⟨value, after⟩, read, same⟩ := bind_eq_ok.mp came
      cases same
      -- The digits end where they did before.
      have behind := readNumber_append ends read
      rw [List.cons_append] at behind
      simp [behind, Bind.bind, Except.bind, Pure.pure, Except.pure]

/-- No word starts with a digit, with or without a sign before it. -/
theorem readWord?_of_digit {c : Char} (digit : c.isDigit = true) (text : List Char) :
    readWord? (c :: text) = none ∧ readWord? ('-' :: c :: text) = none := by
  -- All words start with letters, but for one that starts with a sign and goes on with a letter.
  have apart (letter : Char) (other : letter.isDigit = false) : (letter == c) = false := by
    rw [beq_eq_false_iff_ne]
    rintro rfl
    rw [digit] at other
    cases other
  have letters : ('n' == c) = false ∧ ('t' == c) = false ∧ ('f' == c) = false ∧
      ('N' == c) = false ∧ ('I' == c) = false ∧ ('-' == c) = false :=
    ⟨apart _ rfl, apart _ rfl, apart _ rfl, apart _ rfl, apart _ rfl, apart _ rfl⟩
  simp [readWord?, words, List.isPrefixOf, letters]

/-- A whole number that can be written is read back as a value. -/
theorem readValue_int {value : Int} (writable : (Json.int value).isWritable = true)
    (ends : Ends rest) (fuel : Nat) :
    readValue (fuel + 1) (((Number.int value).render spelling).toList ++ rest) =
      .ok (.int value, rest) := by
  have read := readNumber_int writable (show Ends [] from nofun)
  rw [List.append_nil] at read
  refine readValue_append ends ?_ fuel
  -- The text starts with a digit, or with a sign and a digit.
  obtain ⟨c, text, same, started⟩ : ∃ c text, ((Number.int value).render spelling).toList =
      c :: text ∧ (c.isDigit = true ∨ c = '-') ∧ readWord? (c :: text) = none := by
    cases value with
    | ofNat size =>
      obtain ⟨c, digits, same, digit⟩ := toDigits_eq_cons size
      exact ⟨c, digits, Nat.toList_repr.trans same, .inl digit, (readWord?_of_digit digit _).1⟩
    | negSucc size =>
      obtain ⟨c, digits, same, digit⟩ := toDigits_eq_cons (size + 1)
      refine ⟨'-', c :: digits, ?_, .inr rfl, (readWord?_of_digit digit _).2⟩
      rw [show (Number.int (.negSucc size)).render spelling = "-" ++ (size + 1).repr from rfl,
        String.toList_append, Nat.toList_repr, same]
      rfl
  -- So it starts with no mark that opens anything else.
  have plain (mark : Char) (other : mark.isDigit = false ∧ mark ≠ '-') : c ≠ mark := by
    rintro rfl
    obtain digit | minus := started.1
    · rw [digit] at other
      cases other.1
    · exact other.2 minus
  rw [same] at read ⊢
  rw [readValue_eq (plain _ (by decide)) (plain _ (by decide)) (plain _ (by decide)), started.2]
  simp [read, Bind.bind, Except.bind, Pure.pure, Except.pure]

end Scalars

end Json

end Flowchart
