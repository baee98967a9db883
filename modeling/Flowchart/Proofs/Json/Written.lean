import Flowchart.Json.Equality
import Flowchart.Json.Reader
import Flowchart.Json.Writer
import Flowchart.Proofs.Outcome
import Flowchart.Proofs.Text.Ascii

/-! What a value is written as over several lines, character by character. All of them are plain, so
that no encoding and no convention about line ends can change what was written. -/

namespace Flowchart

/-- A text put together is plain if its parts are. -/
theorem isPlainText_append {first second : String} :
    IsPlainText (first ++ second) ↔ IsPlainText first ∧ IsPlainText second := by
  simp only [IsPlainText, String.toList_append, List.forall_mem_append]

/-- A text is plain if the characters it is made of are. -/
theorem isPlainText_ofList {chars : List Char} :
    IsPlainText (String.ofList chars) ↔ ∀ c ∈ chars, IsPlain c := by
  rw [IsPlainText, String.toList_ofList]

/-- A digit is plain. -/
theorem isPlain_of_isDigit {c : Char} (digit : c.isDigit = true) : IsPlain c := by
  simp only [Char.isDigit, Bool.and_eq_true, decide_eq_true_eq, UInt32.le_iff_toNat_le] at digit
  -- Digits lie in a range of ASCII that does not hold the one mark that is left out.
  have high : c.toNat ≤ 57 := digit.2
  have low : 48 ≤ c.toNat := digit.1
  refine ⟨by omega, ?_⟩
  rintro rfl
  exact absurd low (by decide)

/-- The digits of a number are plain. -/
theorem isPlain_toDigits {number : Nat} : ∀ c ∈ Nat.toDigits 10 number, IsPlain c := fun _ member =>
  isPlain_of_isDigit (Nat.isDigit_of_mem_toDigits (by decide) (by decide) member)

/-- A whole number is plain. -/
theorem isPlainText_repr (number : Nat) : IsPlainText number.repr := by
  -- A number is written in digits.
  rw [IsPlainText, Nat.toList_repr]
  exact isPlain_toDigits

/-- A double is plain, apart from the words for those that are no numbers. -/
theorem Decimal.render_plain (style : Spelling) (decimal : Decimal) :
    IsPlainText (render style decimal) := by
  -- All pieces are digits, noughts and fixed marks, in both notations.
  have zeros (count : Nat) : ∀ c ∈ List.replicate count '0', IsPlain c := fun c member =>
    List.eq_of_mem_replicate member ▸ by decide
  have digits : ∀ c ∈ Nat.toDigits 10 decimal.digits, IsPlain c := isPlain_toDigits
  have tenth : IsPlainText ".0" := by decide +kernel
  unfold render
  dsimp only
  split
  · decide +kernel
  · split
    · -- The positional notation has digits, zeros and a point.
      split
      · simp only [isPlainText_append, isPlainText_ofList, List.forall_mem_append]
        exact ⟨⟨digits, zeros _⟩, tenth⟩
      · split
        · simp only [isPlainText_ofList, List.forall_mem_append, List.forall_mem_cons]
          exact ⟨fun c member => digits c (List.mem_of_mem_take member), by decide,
            fun c member => digits c (List.mem_of_mem_drop member)⟩
        · simp only [isPlainText_append, isPlainText_ofList, List.forall_mem_append]
          exact ⟨by decide +kernel, zeros _, digits⟩
    · -- The scientific one has an exponent as well, which is a whole number.
      have digit_text {c : Char} (plain : IsPlain c) : IsPlainText c.toString := by
        simpa [IsPlainText, Char.toString] using plain
      simp only [isPlainText_append]
      refine ⟨⟨?_, ?_⟩, ?_⟩
      · split
        · decide +kernel
        -- A lone digit has a point behind it only where the style asks for one.
        · rename_i digit only
          rw [only, List.forall_mem_singleton] at digits
          split
          · exact isPlainText_append.mpr ⟨digit_text digits, tenth⟩
          · exact digit_text digits
        -- More digits have a point behind the first one.
        · rename_i digit rest _ all
          rw [all, List.forall_mem_cons] at digits
          simp only [isPlainText_ofList, List.forall_mem_cons]
          exact ⟨digits.1, by decide, digits.2⟩
      · split <;> decide +kernel
      · split
        · exact isPlainText_append.mpr ⟨by decide +kernel, isPlainText_repr _⟩
        · exact isPlainText_repr _

namespace Json

/-- A number is plain. -/
theorem render_plain (number : Number) : IsPlainText (number.render spelling) := by
  cases number with
  | int value =>
    cases value with
    | ofNat size => exact isPlainText_repr size
    | negSucc size => exact isPlainText_append.mpr ⟨by decide +kernel, isPlainText_repr _⟩
  | float x =>
    -- A double may be one of the words for infinity and for no number at all.
    simp only [Number.render, Decimal.ofFloat]
    split
    · refine isPlainText_append.mpr ⟨?_, Decimal.render_plain _ _⟩
      split <;> decide +kernel
    · split
      · decide +kernel
      · split <;> decide +kernel

/-- The sixteen digits are plain. -/
theorem hexDigit_plain : ∀ value < 16, IsPlain (hexDigit value) := by decide

/-- A code unit is escaped by plain characters. -/
theorem escapeUnit_plain (unit : Nat) : IsPlainText (escapeUnit unit) := by
  -- An escape is a backslash, a letter and four hexadecimal digits.
  have digit (value : Nat) : IsPlain (hexDigit (value % 16)) :=
    hexDigit_plain _ (Nat.mod_lt value (by decide))
  simp only [escapeUnit, isPlainText_ofList, List.forall_mem_cons]
  exact ⟨by decide, by decide, digit _, digit _, digit _, digit unit, nofun⟩

/-- A character inside a string is written in plain ones. -/
theorem escapeChar_plain (c : Char) : IsPlainText (escapeChar c) := by
  -- Seven characters have an escape with a letter; all others are printable or go by number.
  unfold escapeChar
  split
  case h_8 =>
    dsimp only
    split
    · rename_i printable
      have plain : IsPlain c := by
        refine ⟨by omega, ?_⟩
        rintro rfl
        exact absurd printable.1 (by decide)
      simpa [IsPlainText, Char.toString] using plain
    · split
      · exact escapeUnit_plain _
      · exact isPlainText_append.mpr ⟨escapeUnit_plain _, escapeUnit_plain _⟩
  all_goals decide +kernel

/-- The characters of a string in quotes. -/
def quoteChars (text : String) : List Char :=
  '"' :: (text.toList.flatMap fun c => (escapeChar c).toList) ++ ['"']

/-- A string is written character by character. -/
theorem quote_toList (text : String) : (quote text).toList = quoteChars text := by
  -- The induction is on the characters, after whatever was written before them.
  have general (written : String) (chars : List Char) :
      (chars.foldl (fun written c => written ++ escapeChar c) written).toList =
        written.toList ++ chars.flatMap fun c => (escapeChar c).toList := by
    induction chars generalizing written with
    | nil => simp
    | cons c rest ih => simp [ih]
  rw [quote, String.toList_append, general]
  rfl

/-- The characters of a new line at a depth. -/
def newlineChars (depth : Nat) : List Char := '\n' :: List.replicate (2 * depth) ' '

/-- A new line is written as its characters. -/
theorem newline_toList (depth : Nat) : (newline depth).toList = newlineChars depth :=
  String.toList_ofList

mutual

/-- The characters of a value with each item and member on a line of its own. -/
def indentedChars (depth : Nat) : Json → List Char
  | .arr (item :: rest) =>
    '[' :: newlineChars (depth + 1) ++ indentedChars (depth + 1) item ++ itemChars depth rest ++
      newlineChars depth ++ [']']
  | .obj ((key, value) :: rest) =>
    '\x7b' :: newlineChars (depth + 1) ++ quoteChars key ++ [':', ' '] ++
      indentedChars (depth + 1) value ++ memberChars depth rest ++ newlineChars depth ++ ['\x7d']
  | .arr [] => ['[', ']']
  | .obj [] => ['\x7b', '\x7d']
  | .null => ['n', 'u', 'l', 'l']
  | .bool true => ['t', 'r', 'u', 'e']
  | .bool false => ['f', 'a', 'l', 's', 'e']
  | .num value => (value.render spelling).toList
  | .str text => quoteChars text

/-- The characters of the items after the first. -/
def itemChars (depth : Nat) : List Json → List Char
  | [] => []
  | item :: rest =>
    ',' :: newlineChars (depth + 1) ++ indentedChars (depth + 1) item ++ itemChars depth rest

/-- The characters of the members after the first. -/
def memberChars (depth : Nat) : List (String × Json) → List Char
  | [] => []
  | (key, value) :: rest =>
    ',' :: newlineChars (depth + 1) ++ quoteChars key ++ [':', ' '] ++
      indentedChars (depth + 1) value ++ memberChars depth rest

end

mutual

/-- A value is written after what was written before. -/
theorem appendIndented_toList (depth : Nat) (written : String) (value : Json) :
    (appendIndented depth written value).toList = written.toList ++ indentedChars depth value := by
  -- The recursion is the writer's: a list and an object write their first part, then the others.
  match value with
  | .arr (item :: rest) =>
    simp [appendIndented, indentedChars, appendIndentedItems_toList depth _ rest,
      appendIndented_toList (depth + 1) _ item, newline_toList]
  | .obj ((key, value) :: rest) =>
    simp [appendIndented, indentedChars, appendIndentedMembers_toList depth _ rest,
      appendIndented_toList (depth + 1) _ value, newline_toList, quote_toList]
  | .arr [] | .obj [] | .null | .bool true | .bool false =>
    simp [appendIndented, indentedChars]
  | .num value => simp [appendIndented, indentedChars]
  | .str text => simp [appendIndented, indentedChars, quote_toList]

/-- Items are written after what was written before. -/
theorem appendIndentedItems_toList (depth : Nat) (written : String) (items : List Json) :
    (appendIndentedItems depth written items).toList = written.toList ++ itemChars depth items := by
  -- Each item is appended to all that was written before it.
  match items with
  | [] => simp [appendIndentedItems, itemChars]
  | item :: rest =>
    simp [appendIndentedItems, itemChars, appendIndentedItems_toList depth _ rest,
      appendIndented_toList (depth + 1) _ item, newline_toList]

/-- Members are written after what was written before. -/
theorem appendIndentedMembers_toList (depth : Nat) (written : String)
    (members : List (String × Json)) :
    (appendIndentedMembers depth written members).toList =
      written.toList ++ memberChars depth members := by
  -- Each member is appended to all that was written before it.
  match members with
  | [] => simp [appendIndentedMembers, memberChars]
  | (key, value) :: rest =>
    simp [appendIndentedMembers, memberChars, appendIndentedMembers_toList depth _ rest,
      appendIndented_toList (depth + 1) _ value, newline_toList, quote_toList]

end

/-- A string in quotes is plain. -/
theorem quoteChars_plain (text : String) : ∀ c ∈ quoteChars text, IsPlain c := by
  -- Between the quotes there is nothing but escapes and characters that need none.
  have escaped : ∀ c ∈ text.toList.flatMap fun c => (escapeChar c).toList, IsPlain c := by
    intro c member
    obtain ⟨given, -, written⟩ := List.mem_flatMap.mp member
    exact escapeChar_plain given c written
  simp only [quoteChars, List.forall_mem_append, List.forall_mem_cons]
  exact ⟨⟨by decide, escaped⟩, by decide, nofun⟩

/-- A new line is plain. -/
theorem newlineChars_plain (depth : Nat) : ∀ c ∈ newlineChars depth, IsPlain c :=
  List.forall_mem_cons.mpr ⟨by decide, fun _ member => List.eq_of_mem_replicate member ▸ by decide⟩

mutual

/-- A value is plain. -/
theorem indentedChars_plain (depth : Nat) (value : Json) :
    ∀ c ∈ indentedChars depth value, IsPlain c := by
  -- The recursion is the writer's: marks, line ends and what is inside are plain each.
  match value with
  | .arr (item :: rest) =>
    simp only [indentedChars, List.forall_mem_append, List.forall_mem_cons]
    exact ⟨⟨⟨⟨⟨by decide, newlineChars_plain _⟩, indentedChars_plain (depth + 1) item⟩,
      itemChars_plain depth rest⟩, newlineChars_plain _⟩, by decide, nofun⟩
  | .obj ((key, value) :: rest) =>
    simp only [indentedChars, List.forall_mem_append, List.forall_mem_cons]
    exact ⟨⟨⟨⟨⟨⟨⟨by decide, newlineChars_plain _⟩, quoteChars_plain key⟩,
      by decide, by decide, nofun⟩, indentedChars_plain (depth + 1) value⟩,
      memberChars_plain depth rest⟩,
      newlineChars_plain _⟩, by decide, nofun⟩
  | .arr [] | .obj [] | .null | .bool true | .bool false =>
    exact isPlain_of_all rfl
  | .num value => exact render_plain value
  | .str text => exact quoteChars_plain text

/-- The items after the first are plain. -/
theorem itemChars_plain (depth : Nat) (items : List Json) :
    ∀ c ∈ itemChars depth items, IsPlain c := by
  -- In front of each item stand a comma, the end of a line and blanks.
  match items with
  | [] => exact nofun
  | item :: rest =>
    simp only [itemChars, List.forall_mem_append, List.forall_mem_cons]
    exact ⟨⟨⟨by decide, newlineChars_plain _⟩, indentedChars_plain (depth + 1) item⟩,
      itemChars_plain depth rest⟩

/-- The members after the first are plain. -/
theorem memberChars_plain (depth : Nat) (members : List (String × Json)) :
    ∀ c ∈ memberChars depth members, IsPlain c := by
  -- In front of each value stand a comma, the end of a line, the key and a colon.
  match members with
  | [] => exact nofun
  | (key, value) :: rest =>
    simp only [memberChars, List.forall_mem_append, List.forall_mem_cons]
    exact ⟨⟨⟨⟨⟨by decide, newlineChars_plain _⟩, quoteChars_plain key⟩,
      by decide, by decide, nofun⟩, indentedChars_plain (depth + 1) value⟩,
      memberChars_plain depth rest⟩

end

/-- The characters of a value over several lines. -/
theorem indented_toList (value : Json) : value.indented.toList = indentedChars 0 value := by
  -- The writer puts the characters behind an empty text.
  rw [indented, appendIndented_toList]
  rfl

/-- A value over several lines is plain. -/
theorem indented_plain (value : Json) : IsPlainText value.indented := by
  -- The text is made of the characters of its parts, and these are plain.
  rw [IsPlainText, indented_toList]
  exact indentedChars_plain 0 value

/-- A value is read back from what it is written as if it is found in the characters of it. -/
theorem read_indented {value : Json}
    (found : (readAll (indentedChars 0 value)).toOption = some value) :
    read value.indented = .ok value := by
  -- A plain text cannot start with the mark that is refused.
  have unmarked : (indentedChars 0 value).head? ≠ some '\uFEFF' := by
    intro marked
    have plain := indentedChars_plain 0 value _ (List.mem_of_head? marked)
    exact absurd plain (by decide)
  rw [read, indented_toList, toOption_eq_some.mp found]
  exact if_neg unmarked

end Json

end Flowchart
