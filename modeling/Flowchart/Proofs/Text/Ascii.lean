import Flowchart.Proofs.Text.Utf8

/-! Texts in ASCII without carriage returns. A file that holds such a text is read as it was written,
since no line end in it is taken for another one. -/

namespace Flowchart

/-- A character of ASCII that is no carriage return. -/
def IsPlain (c : Char) : Prop := c.toNat < 0x80 ∧ c ≠ '\r'

/-- A text whose characters are all plain. -/
def IsPlainText (text : String) : Prop := ∀ c ∈ text.toList, IsPlain c

instance (c : Char) : Decidable (IsPlain c) := inferInstanceAs (Decidable (_ ∧ _))

instance (text : String) : Decidable (IsPlainText text) :=
  List.decidableBAll IsPlain text.toList

/-- Characters are plain if going through them finds no other one. -/
theorem isPlain_of_all {chars : List Char} (all : chars.all (decide <| IsPlain ·) = true) :
    ∀ c ∈ chars, IsPlain c := by
  simpa only [List.all_eq_true, decide_eq_true_eq] using all

namespace Encoding

/-- Where there is no carriage return, lines end as they did. -/
theorem unifyLineEnds_eq_self {text : List Char} (free : ∀ c ∈ text, c ≠ '\r') :
    unifyLineEnds text = text := by
  -- Only a carriage return is ever joined with what follows.
  induction text with
  | nil => rfl
  | cons c rest ih =>
    obtain ⟨first, later⟩ := List.forall_mem_cons.mp free
    rw [unifyLineEnds, ih later]
    · exact fun _ same => absurd same first
    · exact first

/-- A plain text is read back from its bytes. -/
theorem decodeFile_toUTF8 {text : String} (plain : IsPlainText text) :
    decodeFile text.toUTF8 = .ok text := by
  -- The bytes give the text back, and there are no line ends to unify.
  have lines : String.ofList (unifyLineEnds text.toList) = text := by
    rw [unifyLineEnds_eq_self fun c listed => (plain c listed).2, String.ofList_toList]
  rw [decodeFile, decodeBy_toUTF8]
  exact congrArg Except.ok lines

end Encoding

end Flowchart
