import Flowchart.Text.Encoding

/-! Texts as bytes. UTF-8 writes a character in one to four bytes, and the first of them tells how
many there are. The main statement says that every text is read back from its bytes. -/

namespace Flowchart

/-- Going through bytes from a place on puts those from there in order. -/
theorem toList_loop_eq (bytes : ByteArray) (place : Nat) (read : List UInt8) :
    ByteArray.toList.loop bytes place read = read.reverse ++ bytes.data.toList.drop place := by
  -- Each byte goes on top of those before it, until the place is past the end.
  fun_induction ByteArray.toList.loop bytes place read with
  | case1 place read inside ih =>
    have held : place < bytes.data.toList.length := by simpa using inside
    rw [ih, List.drop_eq_getElem_cons held]
    simp [ByteArray.get!, inside]
  | case2 place read beyond =>
    rw [List.drop_eq_nil_of_le (by simpa using Nat.le_of_not_lt beyond), List.append_nil]

/-- The bytes of an array are those of its list. -/
theorem toList_data (bytes : ByteArray) : bytes.toList = bytes.data.toList := by
  rw [ByteArray.toList, toList_loop_eq, List.reverse_nil, List.nil_append, List.drop_zero]

/-- The bytes of a text are those of its characters, one after the other. -/
theorem toUTF8_toList (text : String) :
    text.toUTF8.toList = text.toList.flatMap String.utf8EncodeChar := by
  -- The bytes of a text are those of its characters, one after the other.
  have bytes : text.toUTF8 = text.toList.utf8Encode := by
    rw [← String.toByteArray_ofList, String.ofList_toList]
    rfl
  rw [bytes, toList_data, List.utf8Encode, List.toList_data_toByteArray]

namespace Encoding

/-- The byte that continues a character with the six lowest bits of a number. -/
def trail (n : Nat) : UInt8 := UInt8.ofNat (n % 64 + 128)

/-- A first byte, and numbers for the bytes that follow it, write a character beyond ASCII. The
second byte lies in the bounds that the first one sets. -/
structure Spells (c : Char) (first : UInt8) (second : Nat) (later : List Nat) : Prop where
  code : codePoint first ((second :: later).map trail) = c.toNat
  followed : ∃ low high, followers? first = some (later.length + 1, low, high) ∧
    low ≤ trail second ∧ trail second ≤ high

theorem trail_toNat (n : Nat) : (trail n).toNat = n % 64 + 128 := by
  rw [trail, UInt8.toNat_ofNat', Nat.mod_eq_of_lt (by omega)]

/-- Bytes that continue a character are taken as far as they are owed. -/
theorem continuation_trails (numbers : List Nat) (rest : List UInt8) :
    continuation numbers.length 0x80 0xBF (numbers.map trail ++ rest) = numbers.map trail := by
  -- Each trailing byte is inside the widest bounds, so it is taken.
  induction numbers with
  | nil => rfl
  | cons n later ih =>
    have inside : (0x80 ≤ trail n && trail n ≤ 0xBF) = true := by
      simp [UInt8.le_iff_toNat_le, trail_toNat]
      omega
    simp only [List.length_cons, List.map_cons, List.cons_append, continuation, if_pos inside, ih]

/-- A byte that others follow is not in ASCII. -/
theorem not_ascii_of_followers? {first : UInt8} {owed : Nat × UInt8 × UInt8}
    (follows : followers? first = some owed) : ¬ first < 0x80 := by
  -- No ASCII byte has followers.
  intro ascii
  have low : first < 0xC2 := UInt8.lt_trans ascii (by decide)
  rw [followers?, if_pos low] at follows
  cases follows

/-- The bounds of the second byte leave no room for surrogates. -/
theorem afterSurrogate?_of_followers? {first second low high : UInt8} {owed : Nat}
    (follows : followers? first = some (owed, low, high)) (below : second ≤ high)
    (rest : List UInt8) : afterSurrogate? (first :: second :: rest) = none := by
  -- Only one first byte could open a surrogate, and its bounds exclude the second byte of one.
  by_cases lead : first = 0xED
  · subst lead
    obtain rfl : (0x9F : UInt8) = high := by
      have bounds : followers? 0xED = some (2, 0x80, 0x9F) := by decide
      rw [bounds] at follows
      cases follows
      rfl
    have early : ¬ 0xA0 ≤ second := UInt8.not_le.mpr (UInt8.lt_of_le_of_lt below (by decide))
    cases rest <;> simp [afterSurrogate?, early]
  · cases rest <;> simp [afterSurrogate?, lead]

/-- A character that is spelled out is read in one turn. -/
theorem decodeUtf8_of_spells {c : Char} {first : UInt8} {second : Nat} {later : List Nat}
    (spells : Spells c first second later) (surrogates : Bool) (fuel position : Nat)
    (read : List Char) (rest : List UInt8) :
    decodeUtf8 surrogates (fuel + 1) position read
        (first :: ((second :: later).map trail ++ rest)) =
      decodeUtf8 surrogates fuel (position + (later.length + 1) + 1) (c :: read) rest := by
  -- The bytes of the character are taken as a whole, and they spell its number.
  obtain ⟨low, high, follows, above, below⟩ := spells.followed
  have whole : afterSurrogate? (first :: ((second :: later).map trail ++ rest)) = none :=
    afterSurrogate?_of_followers? follows below _
  have inside : (low ≤ trail second && trail second ≤ high) = true := by simp [above, below]
  have taken : continuation (later.length + 1) low high ((second :: later).map trail ++ rest) =
      (second :: later).map trail := by
    simp only [List.map_cons, List.cons_append, continuation, if_pos inside, continuation_trails]
  have dropped : ((second :: later).map trail ++ rest).drop (later.length + 1) = rest := by
    rw [List.drop_left' (by simp)]
  rw [decodeUtf8, if_neg (not_ascii_of_followers? follows)]
  simp only [whole, follows, taken, dropped, spells.code, Char.ofNat_toNat, List.length_map,
    List.length_cons, if_true]

/-- What a first byte says of those that follow it. -/
theorem followers?_ofNat {n : Nat} (small : n < 0x100) :
    followers? (UInt8.ofNat n) =
      if n < 0xC2 then none
      else if n < 0xE0 then some (1, 0x80, 0xBF)
      else if n = 0xE0 then some (2, 0xA0, 0xBF)
      else if n = 0xED then some (2, 0x80, 0x9F)
      else if n < 0xF0 then some (2, 0x80, 0xBF)
      else if n = 0xF0 then some (3, 0x90, 0xBF)
      else if n < 0xF4 then some (3, 0x80, 0xBF)
      else if n = 0xF4 then some (3, 0x80, 0x8F)
      else none := by
  -- The bounds are compared as numbers.
  simp only [followers?, UInt8.lt_iff_toNat_lt, ← UInt8.toNat_inj, UInt8.toNat_ofNat',
    Nat.mod_eq_of_lt small]
  rfl

/-- A byte that continues a character lies in bounds that its number lies in. -/
theorem trail_bounds {n : Nat} (low high : Nat) (above : low ≤ n % 64 + 128)
    (below : n % 64 + 128 ≤ high) (byte : high < 0x100) :
    UInt8.ofNat low ≤ trail n ∧ trail n ≤ UInt8.ofNat high := by
  -- A trailing byte carries six bits above a fixed start.
  rw [UInt8.le_iff_toNat_le, UInt8.le_iff_toNat_le, trail_toNat, UInt8.toNat_ofNat',
    UInt8.toNat_ofNat', Nat.mod_eq_of_lt byte]
  omega

/-- A character is no surrogate, and there are not more than 17 planes of them. -/
theorem toNat_cases (c : Char) : c.toNat < 0xD800 ∨ 0xDFFF < c.toNat ∧ c.toNat < 0x110000 := c.valid

/-- A character below U+0800 is spelled out in two bytes. -/
theorem spells_two {c : Char} (above : 0x80 ≤ c.toNat) (below : c.toNat < 0x800) :
    Spells c (UInt8.ofNat (c.toNat / 64 % 32 + 192)) c.toNat [] where
  -- The number is put together from its digits to base 64.
  code := by
    simp only [codePoint, List.map_cons, List.map_nil, List.length_singleton, UInt8.toNat_ofNat',
      List.foldl_cons, List.foldl_nil, trail_toNat]
    omega
  followed := by
    refine ⟨0x80, 0xBF, ?_, trail_bounds 0x80 0xBF (by omega) (by omega) (by decide)⟩
    rw [followers?_ofNat (by omega), if_neg (by omega), if_pos (by omega), List.length_nil]

/-- A character from U+0800 on and below U+10000 is spelled out in three bytes. -/
theorem spells_three {c : Char} (above : 0x800 ≤ c.toNat) (below : c.toNat < 0x10000) :
    Spells c (UInt8.ofNat (c.toNat / 4096 % 16 + 224)) (c.toNat / 64) [c.toNat] where
  code := by
    simp only [codePoint, List.map_cons, List.map_nil, List.length_cons, List.length_nil,
      UInt8.toNat_ofNat', List.foldl_cons, List.foldl_nil, trail_toNat]
    omega
  followed := by
    have valid := toNat_cases c
    rw [followers?_ofNat (by omega), if_neg (by omega), if_neg (by omega), List.length_singleton]
    -- The second byte is bounded where shorter forms and surrogates have to be kept out.
    by_cases first : c.toNat / 4096 % 16 + 224 = 0xE0
    · exact ⟨0xA0, 0xBF, if_pos first,
        trail_bounds 0xA0 0xBF (by omega) (by omega) (by decide)⟩
    rw [if_neg first]
    by_cases last : c.toNat / 4096 % 16 + 224 = 0xED
    · exact ⟨0x80, 0x9F, if_pos last,
        trail_bounds 0x80 0x9F (by omega) (by omega) (by decide)⟩
    rw [if_neg last]
    exact ⟨0x80, 0xBF, if_pos (by omega),
      trail_bounds 0x80 0xBF (by omega) (by omega) (by decide)⟩

/-- A character from U+10000 on is spelled out in four bytes. -/
theorem spells_four {c : Char} (above : 0x10000 ≤ c.toNat) :
    Spells c (UInt8.ofNat (c.toNat / 262144 % 8 + 240)) (c.toNat / 4096)
      [c.toNat / 64, c.toNat] where
  code := by
    have valid := toNat_cases c
    simp only [codePoint, List.map_cons, List.map_nil, List.length_cons, List.length_nil,
      UInt8.toNat_ofNat', List.foldl_cons, List.foldl_nil, trail_toNat]
    omega
  followed := by
    have valid := toNat_cases c
    rw [followers?_ofNat (by omega), if_neg (by omega), if_neg (by omega), if_neg (by omega),
      if_neg (by omega), if_neg (by omega)]
    -- The bounds of the second byte depend on the first: only the outermost ones are narrower.
    by_cases first : c.toNat / 262144 % 8 + 240 = 0xF0
    · exact ⟨0x90, 0xBF, if_pos first,
        trail_bounds 0x90 0xBF (by omega) (by omega) (by decide)⟩
    rw [if_neg first]
    by_cases later : c.toNat / 262144 % 8 + 240 < 0xF4
    · exact ⟨0x80, 0xBF, if_pos later,
        trail_bounds 0x80 0xBF (by omega) (by omega) (by decide)⟩
    rw [if_neg later]
    exact ⟨0x80, 0x8F, if_pos (by omega),
      trail_bounds 0x80 0x8F (by omega) (by omega) (by decide)⟩

/-- A character in ASCII is written by its own number. -/
theorem utf8EncodeChar_ascii {c : Char} (ascii : c.toNat < 0x80) :
    String.utf8EncodeChar c = [UInt8.ofNat c.toNat] :=
  if_pos (Nat.le_of_lt_succ ascii)

/-- A character beyond ASCII is spelled out. -/
theorem utf8EncodeChar_beyond {c : Char} (beyond : ¬ c.toNat < 0x80) :
    ∃ first second later, Spells c first second later ∧
      String.utf8EncodeChar c = first :: (second :: later).map trail := by
  have one : ¬ c.toNat ≤ 0x7F := by omega
  -- The three longer forms, by the size of the number.
  by_cases two : c.toNat ≤ 0x7FF
  · exact ⟨_, _, _, spells_two (by omega) (by omega), (if_neg one).trans (if_pos two)⟩
  by_cases three : c.toNat ≤ 0xFFFF
  · exact ⟨_, _, _, spells_three (by omega) (by omega),
      (if_neg one).trans ((if_neg two).trans (if_pos three))⟩
  exact ⟨_, _, _, spells_four (by omega),
    (if_neg one).trans ((if_neg two).trans (if_neg three))⟩

/-- A character is read back from its bytes in one turn. -/
theorem decodeUtf8_char (surrogates : Bool) (fuel position : Nat) (read : List Char) (c : Char)
    (rest : List UInt8) : ∃ next,
      decodeUtf8 surrogates (fuel + 1) position read (String.utf8EncodeChar c ++ rest) =
        decodeUtf8 surrogates fuel next (c :: read) rest := by
  by_cases ascii : c.toNat < 0x80
  · refine ⟨position + 1, ?_⟩
    -- An ASCII character is one byte and stands for itself.
    have value : (UInt8.ofNat c.toNat).toNat = c.toNat := by
      rw [UInt8.toNat_ofNat', Nat.mod_eq_of_lt (by omega)]
    have low : UInt8.ofNat c.toNat < 0x80 := by
      rw [UInt8.lt_iff_toNat_lt, value]
      exact ascii
    rw [utf8EncodeChar_ascii ascii, List.singleton_append, decodeUtf8, if_pos low, value,
      Char.ofNat_toNat]
  · obtain ⟨first, second, later, spells, spelled⟩ := utf8EncodeChar_beyond ascii
    rw [spelled]
    exact ⟨_, decodeUtf8_of_spells spells surrogates fuel position read rest⟩

/-- Characters are read back from their bytes, one after the other. -/
theorem decodeUtf8_chars (surrogates : Bool) (chars : List Char) {fuel : Nat}
    (enough : chars.length < fuel) (position : Nat) (read : List Char) :
    decodeUtf8 surrogates fuel position read (chars.flatMap String.utf8EncodeChar) =
      .ok (read.reverse ++ chars) := by
  -- One unit of fuel is spent on each character, and one more at the end.
  induction chars generalizing fuel position read with
  | nil =>
    obtain ⟨fuel, rfl⟩ := Nat.exists_eq_succ_of_ne_zero (Nat.ne_of_gt enough)
    simp [decodeUtf8]
  | cons c rest ih =>
    obtain ⟨fuel, rfl⟩ := Nat.exists_eq_succ_of_ne_zero (Nat.ne_of_gt (Nat.zero_lt_of_lt enough))
    rw [List.flatMap_cons]
    obtain ⟨next, turned⟩ := decodeUtf8_char surrogates fuel position read c
      (rest.flatMap String.utf8EncodeChar)
    rw [turned, ih (Nat.lt_of_succ_lt_succ enough)]
    simp

/-- A text is read back from its bytes. -/
theorem decodeBy_toUTF8 (surrogates : Bool) (position : Nat) (text : String) :
    decodeBy .utf8 surrogates position text.toUTF8.toList = .ok text := by
  -- Every character takes a byte at least, so there are turns enough for all of them.
  have room (chars : List Char) :
      chars.length ≤ (chars.flatMap String.utf8EncodeChar).length := by
    induction chars with
    | nil => exact Nat.le_refl _
    | cons c rest ih =>
      have some_byte := c.utf8Size_pos
      rw [List.flatMap_cons, List.length_append, String.length_utf8EncodeChar, List.length_cons]
      omega
  simp only [decodeBy, toUTF8_toList,
    decodeUtf8_chars surrogates text.toList (Nat.lt_succ_of_le (room text.toList)),
    List.reverse_nil, List.nil_append]
  exact congrArg Except.ok String.ofList_toList

end Encoding

end Flowchart
