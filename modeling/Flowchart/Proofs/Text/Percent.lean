import Flowchart.Json.Reader
import Flowchart.Proofs.Outcome
import Flowchart.Proofs.Text.Utf8
import Flowchart.Text.Percent

/-! Texts as single segments of an address. The main statements say what the coding of a text looks
like, and that the text is read back from it, so that nothing in a text can end the segment early and
no two texts have one coding. -/

namespace Flowchart

namespace Percent

/-- The letters and digits of ASCII and four signs stand for themselves. -/
def IsLiteral (c : Char) : Prop :=
  'A' ≤ c ∧ c ≤ 'Z' ∨ 'a' ≤ c ∧ c ≤ 'z' ∨ '0' ≤ c ∧ c ≤ '9' ∨ c ∈ ['_', '.', '-', '~']

/-- The digits that bytes are written with. -/
def IsHexDigit (c : Char) : Prop := '0' ≤ c ∧ c ≤ '9' ∨ 'A' ≤ c ∧ c ≤ 'F'

/-- The characters of a segment: literals, and percent signs with two digits each. -/
inductive IsSegment : List Char → Prop where
  | nil : IsSegment []
  | literal {c : Char} {rest : List Char} :
    IsLiteral c → IsSegment rest → IsSegment (c :: rest)
  | escape {high low : Char} {rest : List Char} :
    IsHexDigit high → IsHexDigit low → IsSegment rest → IsSegment ('%' :: high :: low :: rest)

/-- The bytes that characters stand for. A percent sign without two digits stands for none. -/
def octets? : List Char → Option (List UInt8)
  | [] => some []
  | '%' :: high :: low :: rest => do
    let high ← Json.hexValue? high
    let low ← Json.hexValue? low
    (octets? rest).map (UInt8.ofNat (high * 16 + low) :: ·)
  | c :: rest => if c = '%' then none else (octets? rest).map (String.utf8EncodeChar c ++ ·)

/-- The text that a segment stands for: its bytes are read as UTF-8. -/
def decode? (segment : String) : Option String :=
  (octets? segment.toList).bind fun bytes => (Encoding.decodeBy .utf8 false 0 bytes).toOption

/-- A segment that carries a text, and nothing that an address is taken apart at. -/
structure Carries (segment text : String) : Prop where
  spelled : IsSegment segment.toList
  unbroken : ∀ c ∈ segment.toList, c ∉ ['/', '?', '#']
  decoded : decode? segment = some text

instance (c : Char) : Decidable (IsLiteral c) := inferInstanceAs (Decidable (_ ∨ _))

instance (c : Char) : Decidable (IsHexDigit c) := inferInstanceAs (Decidable (_ ∨ _))

section Digits

variable {value : Nat} (small : value < 16)
include small

/-- Bytes are written with the digits for them. -/
theorem isHexDigit_hexDigit : IsHexDigit (hexDigit value) := by
  decide +revert

/-- A digit is read back as its value. -/
theorem hexValue?_hexDigit : Json.hexValue? (hexDigit value) = some value := by
  decide +revert

end Digits

/-- The characters that the coding leaves as they are stand for themselves. -/
theorem isLiteral_of_isUnreserved {c : Char} (unreserved : isUnreserved c = true) :
    IsLiteral c := by
  simp only [isUnreserved, Bool.or_eq_true, decide_eq_true_eq] at unreserved
  -- Letters and digits by their ranges, and the four signs one by one.
  obtain (((alphanumeric | sign) | sign) | sign) | sign := unreserved
  · obtain letter | digit := Bool.or_eq_true_iff.mp alphanumeric
    · obtain upper | lower := Bool.or_eq_true_iff.mp letter
      · exact .inl (of_decide_eq_true upper)
      · obtain ⟨least, most⟩ := Bool.and_eq_true_iff.mp lower
        exact .inr (.inl ⟨of_decide_eq_true least, of_decide_eq_true most⟩)
    · obtain ⟨least, most⟩ := Bool.and_eq_true_iff.mp digit
      exact .inr (.inr (.inl ⟨of_decide_eq_true least, of_decide_eq_true most⟩))
  all_goals exact .inr (.inr (.inr (by simp [sign])))

/-- A literal is no percent sign, and nothing that an address is taken apart at. -/
theorem IsLiteral.not_mem {c : Char} (literal : IsLiteral c) : c ∉ ['%', '/', '?', '#'] := by
  -- None of the four is a letter, a digit or one of the signs.
  intro reserved
  simp only [List.mem_cons, List.not_mem_nil, or_false] at reserved
  obtain rfl | rfl | rfl | rfl := reserved <;> revert literal <;> decide

/-- A digit is nothing that an address is taken apart at. -/
theorem IsHexDigit.not_mem {c : Char} (digit : IsHexDigit c) : c ∉ ['/', '?', '#'] := by
  -- None of the three is a digit or a letter.
  intro reserved
  simp only [List.mem_cons, List.not_mem_nil, or_false] at reserved
  obtain rfl | rfl | rfl := reserved <;> revert digit <;> decide

/-- Nothing in a segment takes an address apart. -/
theorem IsSegment.unbroken {chars : List Char} (segment : IsSegment chars) :
    ∀ c ∈ chars, c ∉ ['/', '?', '#'] := by
  -- A literal is no separator, nor is the percent sign or a hexadecimal digit.
  induction segment with
  | nil => nofun
  | literal first _ ih =>
    refine List.forall_mem_cons.mpr ⟨fun reserved => ?_, ih⟩
    exact first.not_mem (List.mem_cons_of_mem _ reserved)
  | escape high low _ ih =>
    exact List.forall_mem_cons.mpr ⟨by decide, List.forall_mem_cons.mpr
      ⟨high.not_mem, List.forall_mem_cons.mpr ⟨low.not_mem, ih⟩⟩⟩

/-- A character other than the percent sign stands for its own bytes. -/
theorem octets?_cons {c : Char} (plain : c ≠ '%') (rest : List Char) :
    octets? (c :: rest) = (octets? rest).map (String.utf8EncodeChar c ++ ·) := by
  -- Only a percent sign starts an escape.
  rw [octets?, if_neg plain]
  exact fun _ _ _ same => absurd same plain

section Bytes

variable {rest : List Char}

/-- The coding of a byte goes on a segment. -/
theorem isSegment_encodeByte (byte : UInt8) (segment : IsSegment rest) :
    IsSegment (encodeByte byte ++ rest) := by
  -- Both halves of a byte are below sixteen.
  have bound := byte.toNat_lt
  unfold encodeByte
  dsimp only
  split
  · next literal =>
    obtain ⟨-, unreserved⟩ := Bool.and_eq_true_iff.mp literal
    exact .literal (isLiteral_of_isUnreserved unreserved) segment
  · exact .escape (isHexDigit_hexDigit (by omega)) (isHexDigit_hexDigit (by omega)) segment

/-- A byte is read back from its coding. -/
theorem octets?_encodeByte (byte : UInt8) (rest : List Char) :
    octets? (encodeByte byte ++ rest) = (octets? rest).map (byte :: ·) := by
  have bound := byte.toNat_lt
  unfold encodeByte
  dsimp only
  split
  · next literal =>
    obtain ⟨ascii, unreserved⟩ := Bool.and_eq_true_iff.mp literal
    have small : byte.toNat < 0x80 := UInt8.lt_iff_toNat_lt.mp (of_decide_eq_true ascii)
    -- The character of an unreserved byte is that byte again, in one octet.
    have value : (Char.ofNat byte.toNat).toNat = byte.toNat := by
      rw [Char.ofNat, dif_pos (.inl (by omega))]
      rfl
    have single : String.utf8EncodeChar (Char.ofNat byte.toNat) = [byte] := by
      rw [Encoding.utf8EncodeChar_ascii (by rwa [value]), value, UInt8.ofNat_toNat]
    have plain : Char.ofNat byte.toNat ≠ '%' := fun same =>
      (isLiteral_of_isUnreserved unreserved).not_mem (same ▸ List.mem_cons_self)
    rw [List.singleton_append, octets?_cons plain, single]
    rfl
  -- An escape is read back half by half.
  · have whole : byte.toNat / 16 * 16 + byte.toNat % 16 = byte.toNat := by omega
    have high := hexValue?_hexDigit (show byte.toNat / 16 < 16 by omega)
    have low := hexValue?_hexDigit (show byte.toNat % 16 < 16 by omega)
    simp only [List.cons_append, List.nil_append, octets?, high, low, Option.bind_eq_bind,
      Option.bind_some, whole, UInt8.ofNat_toNat]

end Bytes

/-- The coding of bytes is a segment. -/
theorem isSegment_encode (text : String) : IsSegment (encode text).toList := by
  -- Each byte is spelled in front of a segment.
  rw [encode, String.toList_ofList]
  induction text.toUTF8.toList with
  | nil => exact .nil
  | cons byte rest ih => exact isSegment_encodeByte byte ih

/-- A text is read back from its coding. -/
theorem decode?_encode (text : String) : decode? (encode text) = some text := by
  -- The octets come back one by one, and they are the text in UTF-8.
  have octets (bytes : List UInt8) : octets? (bytes.flatMap encodeByte) = some bytes := by
    induction bytes with
    | nil => rfl
    | cons byte rest ih => rw [List.flatMap_cons, octets?_encodeByte, ih, Option.map_some]
  rw [decode?, encode, String.toList_ofList, octets, Option.bind_some,
    Encoding.decodeBy_toUTF8 false 0 text]
  rfl

example : encode "50%/ä" = "50%25%2F%C3%A4" := by decide +kernel

/-- The coding of a text carries the text. -/
theorem carries_encode (text : String) : Carries (encode text) text where
  -- The grammar and the way back are the two halves.
  spelled := isSegment_encode text
  unbroken := (isSegment_encode text).unbroken
  decoded := decode?_encode text

end Percent

end Flowchart
