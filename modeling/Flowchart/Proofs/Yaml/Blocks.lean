import Flowchart.Export

/-! YAML is written in blocks. A pen only appends to what is written, so the entries of a list or an
object stand behind one another as they would stand alone, and logic is the line of its start with a
block for each of its steps. -/

namespace Flowchart

namespace Decimal

/-- Some digit of a double is written. -/
theorem render_ne_empty (style : Spelling) (decimal : Decimal) : render style decimal ≠ "" := by
  unfold render
  dsimp only
  -- In every notation there is a piece that does not depend on the digits.
  split
  · decide
  · split
    · split
      · simp
      · split <;> simp
    · have letter (falls : Prop) [Decidable falls] : (if falls then "e-" else "e+") ≠ "" := by
        split <;> decide
      simp [letter]

/-- Every double comes to some text, if its style has words for those that are no numbers. -/
theorem ofFloat_ne_empty {style : Spelling} (undefined : style.undefined ≠ "")
    (infinite : style.infinite ≠ "") (x : Float) : ofFloat style x ≠ "" := by
  -- Nothing but the two names can be empty, for a finite number has digits.
  unfold ofFloat
  split
  · simp [render_ne_empty]
  · split
    · exact undefined
    · split <;> simp [infinite]

end Decimal

namespace Yaml

/-- Every number comes to some text. -/
theorem render_ne_nil (number : Number) : (number.render spelling).toList ≠ [] := by
  intro nothing
  -- A whole number has a digit or a sign, a float has what the spelling gives it.
  have empty : number.render spelling = "" := String.toList_eq_nil_iff.mp nothing
  cases number with
  | int value =>
    cases value with
    | ofNat size =>
      have digits : Nat.toDigits 10 size = [] := Nat.toList_repr.symm.trans nothing
      exact List.ne_nil_of_length_pos Nat.length_toDigits_pos digits
    | negSucc size =>
      have signed : "-" ++ (size + 1).repr = "" := empty
      simp at signed
  | float x => exact Decimal.ofFloat_ne_empty (by decide) (by decide) x empty

namespace Pen

/-- A pen on a page on which a text stands before all that is written. -/
def behind (pen : Pen) (before : String) : Pen := { pen with written := before ++ pen.written }

section Behind

variable (pen : Pen) (before : String)

@[simp] theorem behind_written : (pen.behind before).written = before ++ pen.written := rfl

@[simp] theorem behind_column : (pen.behind before).column = pen.column := rfl

@[simp] theorem behind_afterBlank : (pen.behind before).afterBlank = pen.afterBlank := rfl

@[simp] theorem behind_atIndent : (pen.behind before).atIndent = pen.atIndent := rfl

@[simp] theorem write_behind (text : List Char) :
    (pen.behind before).write text = (pen.write text).behind before := by
  simp [behind, write, String.append_assoc]

@[simp] theorem breakLine_behind : (pen.behind before).breakLine = pen.breakLine.behind before := by
  simp [behind, breakLine, String.push_eq_append, String.append_assoc]

@[simp] theorem inContent_behind : (pen.behind before).inContent = pen.inContent.behind before := rfl

/-- Where the pen goes on does not depend on what is written. -/
theorem ite_behind (goesOn : Prop) [Decidable goesOn] (other : Pen) :
    (if goesOn then pen.behind before else other.behind before) =
      (if goesOn then pen else other).behind before :=
  (apply_ite (behind · before) goesOn pen other).symm

@[simp] theorem indentTo_behind (indent : Nat) :
    (pen.behind before).indentTo indent = (pen.indentTo indent).behind before := by
  -- From its place on the old line or on a new one, the pen may have to go right.
  have right (place : Pen) :
      (if place.column < indent then
        { (place.write (List.replicate (indent - place.column) ' ')).behind before with
          afterBlank := true }
      else place.behind before) =
        (if place.column < indent then
          { place.write (List.replicate (indent - place.column) ' ') with afterBlank := true }
        else place).behind before := by
    split <;> rfl
  simp only [indentTo, behind_column, behind_afterBlank, behind_atIndent, breakLine_behind,
    ite_behind, write_behind]
  exact right _

@[simp] theorem mark_behind (text : List Char) (needsBlank blankAfter keepsIndent : Bool) :
    (pen.behind before).mark text needsBlank blankAfter keepsIndent =
      (pen.mark text needsBlank blankAfter keepsIndent).behind before := by
  -- A mark looks at the state of the pen and not at what is written.
  simp only [mark, behind_afterBlank, behind_atIndent, write_behind]
  rfl

end Behind

end Pen

section Writers

variable (pen : Pen) (before : String)

@[simp] theorem writePlain_behind (indent : Nat) (folds : Bool) (text : List Char) :
    writePlain (pen.behind before) indent folds text =
      (writePlain pen indent folds text).behind before := by
  unfold writePlain
  simp only [Pen.behind_afterBlank, Pen.write_behind, Pen.ite_behind, Pen.inContent_behind]
  split
  · rfl
  -- The runs of a folded text are written one after the other, each behind the last.
  · refine List.foldl_hom (Pen.behind · before) fun pen run => ?_
    simp only [Pen.behind_column, Pen.write_behind, Pen.indentTo_behind, Pen.inContent_behind,
      Pen.ite_behind]

@[simp] theorem writeSingleRuns_behind (indent : Nat) (folds inner : Bool)
    (text : List (List Char)) :
    writeSingleRuns indent folds (pen.behind before) inner text =
      (writeSingleRuns indent folds pen inner text).behind before := by
  -- A run is written, and the pen that comes of it goes on.
  induction text generalizing pen inner with
  | nil => rfl
  | cons run rest ih =>
    have breaks (pen : Pen) : run.foldl (fun pen _ => pen.breakLine) (pen.behind before) =
        (run.foldl (fun pen _ => pen.breakLine) pen).behind before :=
      List.foldl_hom (Pen.behind · before) fun _ _ => Pen.breakLine_behind _ _
    unfold writeSingleRuns
    rw [← ih]
    split <;> simp only [Pen.behind_column, Pen.write_behind, Pen.indentTo_behind,
      Pen.breakLine_behind, Pen.ite_behind, breaks]

@[simp] theorem writeSingle_behind (indent : Nat) (folds : Bool) (text : List Char) :
    writeSingle (pen.behind before) indent folds text =
      (writeSingle pen indent folds text).behind before := by
  simp [writeSingle]

@[simp] theorem foldDouble_behind (indent : Nat) (next : Option Char) :
    foldDouble (pen.behind before) indent next = (foldDouble pen indent next).behind before := by
  simp [foldDouble, Pen.ite_behind]

@[simp] theorem writeDoubleChars_behind (indent : Nat) (folds : Bool) (position : Nat)
    (pending text : List Char) :
    writeDoubleChars indent folds (pen.behind before) position pending text =
      (writeDoubleChars indent folds pen position pending text).behind before := by
  -- Whether a line is folded depends on the column, and what was written before is no part of it.
  induction text generalizing pen position pending with
  | nil => exact Pen.write_behind _ _ _
  | cons c rest ih =>
    simp only [writeDoubleChars, Pen.behind_column, Pen.write_behind, foldDouble_behind,
      Pen.ite_behind, ih]
    rfl

@[simp] theorem writeDouble_behind (indent : Nat) (folds : Bool) (text : List Char) :
    writeDouble (pen.behind before) indent folds text =
      (writeDouble pen indent folds text).behind before := by
  simp [writeDouble]

@[simp] theorem writeText_behind (indent : Nat) (isKey : Bool) (text : String) :
    writeText (pen.behind before) indent isKey text =
      (writeText pen indent isKey text).behind before := by
  simp only [writeText, writePlain_behind, writeSingle_behind, writeDouble_behind, Pen.ite_behind]

@[simp] theorem writeKey_behind (indent : Nat) (key : String) :
    writeKey (pen.behind before) indent key = (writeKey pen indent key).behind before := by
  simp only [writeKey, Pen.indentTo_behind, Pen.mark_behind, writeText_behind, Pen.ite_behind]

end Writers

mutual

/-- A value is written behind anything as on an empty page. -/
theorem writeValue_behind (before : String) (pen : Pen) (indent : Option Nat) (underKey : Bool) :
    (value : Json) → writeValue (pen.behind before) indent underKey value =
      (writeValue pen indent underKey value).behind before
  | .null | .bool true | .bool false | .num _ => by simp only [writeValue, writePlain_behind]
  | .str _ => by simp only [writeValue, writeText_behind]
  | .arr [] | .obj [] => by simp only [writeValue, Pen.mark_behind]
  | .arr (item :: rest) => by
    -- A list in a list starts on the line of its mark, which the pen is at in both texts.
    simp only [writeValue, Pen.behind_atIndent]
    exact writeItems_behind before pen _ (item :: rest)
  | .obj (first :: rest) => by
    simp only [writeValue]
    exact writeMembers_behind before pen _ (first :: rest)

/-- Items are written behind anything as on an empty page. -/
theorem writeItems_behind (before : String) (pen : Pen) (indent : Nat) :
    (items : List Json) → writeItems (pen.behind before) indent items =
      (writeItems pen indent items).behind before
  | [] => rfl
  | item :: rest => by
    simp only [writeItems, Pen.indentTo_behind, Pen.mark_behind]
    -- The rest is written behind the first item, wherever that ended.
    rw [writeValue_behind before _ _ _ item, writeItems_behind before _ _ rest]

/-- Members are written behind anything as on an empty page. -/
theorem writeMembers_behind (before : String) (pen : Pen) (indent : Nat) :
    (members : List (String × Json)) → writeMembers (pen.behind before) indent members =
      (writeMembers pen indent members).behind before
  | [] => rfl
  | (key, value) :: rest => by
    simp only [writeMembers, writeKey_behind]
    -- The rest is written behind the first member, wherever that ended.
    rw [writeValue_behind before _ _ _ value, writeMembers_behind before _ _ rest]

end

section Content

variable (pen : Pen)

/-- After a mark that is no dash the line holds more than its indentation. -/
theorem Pen.mark_atIndent (text : List Char) (needsBlank blankAfter : Bool) :
    (pen.mark text needsBlank blankAfter false).atIndent = false :=
  Bool.and_false _

theorem writePlain_atIndent (indent : Nat) (folds : Bool) {text : List Char} (some : text ≠ []) :
    (writePlain pen indent folds text).atIndent = false := by
  unfold writePlain
  rw [if_neg (by simpa using some)]
  -- Every run leaves the pen in content, where a run that becomes a new line puts it as well.
  refine List.foldlRecOn (motive := fun pen : Pen => pen.atIndent = false) _ _ rfl ?_
  intro pen inside run _
  split
  · rfl
  · exact inside

theorem writeText_atIndent (indent : Nat) (isKey : Bool) (text : String) :
    (writeText pen indent isKey text).atIndent = false := by
  unfold writeText
  dsimp only
  split
  · next plain =>
    -- Nothing at all is spelled like null, so it is in quotes.
    refine writePlain_atIndent pen indent _ fun nothing => ?_
    have empty : text = "" := String.toList_eq_nil_iff.mp nothing
    rw [empty] at plain
    exact absurd plain.1 (by decide)
  · split
    · exact Pen.mark_atIndent _ _ _ _
    · exact Pen.mark_atIndent _ _ _ _

end Content

mutual

/-- After a value the line holds more than its indentation. -/
theorem writeValue_atIndent (pen : Pen) (indent : Option Nat) (underKey : Bool) :
    (value : Json) → (writeValue pen indent underKey value).atIndent = false
  | .null | .bool true | .bool false => by
    simp only [writeValue]
    exact writePlain_atIndent _ _ _ (by decide)
  | .num value => by
    simp only [writeValue]
    exact writePlain_atIndent _ _ _ (render_ne_nil value)
  | .str text => by
    simp only [writeValue]
    exact writeText_atIndent _ _ _ text
  | .arr [] | .obj [] => by
    simp only [writeValue]
    exact Pen.mark_atIndent _ _ _ _
  | .arr (item :: rest) => by
    simp only [writeValue, writeItems]
    -- A list ends where its last item ends.
    exact writeItems_atIndent _ (writeValue_atIndent _ _ _ item) rest
  | .obj ((key, value) :: rest) => by
    simp only [writeValue, writeMembers]
    exact writeMembers_atIndent _ (writeValue_atIndent _ _ _ value) rest

/-- More items leave the line with more than its indentation. -/
theorem writeItems_atIndent (indent : Nat) {pen : Pen} (inside : pen.atIndent = false) :
    (items : List Json) → (writeItems pen indent items).atIndent = false
  | [] => inside
  | item :: rest => by
    rw [writeItems]
    -- After one item the pen is inside the line whatever it was before.
    exact writeItems_atIndent indent (writeValue_atIndent _ _ _ item) rest

/-- More members leave the line with more than its indentation. -/
theorem writeMembers_atIndent (indent : Nat) {pen : Pen} (inside : pen.atIndent = false) :
    (members : List (String × Json)) → (writeMembers pen indent members).atIndent = false
  | [] => inside
  | (key, value) :: rest => by
    rw [writeMembers]
    -- After one member the pen is inside the line whatever it was before.
    exact writeMembers_atIndent indent (writeValue_atIndent _ _ _ value) rest

end

section Entries

variable {pen : Pen}

/-- From content a pen goes to the left on a new line, as if it stood on an empty page. -/
theorem Pen.indentTo_zero (inside : pen.atIndent = false) :
    pen.indentTo 0 = (Pen.start.indentTo 0).behind (pen.written.push '\n') := by
  simp [indentTo, inside, breakLine, start, behind]

/-- Items that are written behind content start on a new line. -/
theorem writeItems_of_inside (inside : pen.atIndent = false) (item : Json) (rest : List Json) :
    writeItems pen 0 (item :: rest) =
      (writeItems .start 0 (item :: rest)).behind (pen.written.push '\n') := by
  -- Inside a line the first item has to break it, which starts a line like that of an empty page.
  simp only [writeItems, Pen.indentTo_zero inside, Pen.mark_behind, writeValue_behind,
    writeItems_behind]

/-- Members that are written behind content start on a new line. -/
theorem writeMembers_of_inside (inside : pen.atIndent = false) (first : String × Json)
    (rest : List (String × Json)) : writeMembers pen 0 (first :: rest) =
      (writeMembers .start 0 (first :: rest)).behind (pen.written.push '\n') := by
  -- The key is what breaks the line, and all the rest is written behind it.
  have key : writeKey pen 0 first.1 = (writeKey .start 0 first.1).behind (pen.written.push '\n') := by
    simp only [writeKey, Pen.indentTo_zero inside, Pen.mark_behind, writeText_behind,
      Pen.indentTo_behind, Pen.ite_behind]
  simp only [writeMembers, key, writeValue_behind, writeMembers_behind]

end Entries

/-- The text of a list is the text of its first item in front of the text of the others. -/
theorem render_arr_cons (item next : Json) (rest : List Json) :
    render (.arr (item :: next :: rest)) = render (.arr [item]) ++ render (.arr (next :: rest)) := by
  have inside : (writeItems .start 0 [item]).atIndent = false :=
    writeItems_atIndent 0 (writeValue_atIndent _ _ _ item) []
  -- The second item starts a new line, and from there on the pen is at the start of a text.
  have parts : writeItems .start 0 (item :: next :: rest) =
      (writeItems .start 0 (next :: rest)).behind
        ((writeItems .start 0 [item]).written.push '\n') :=
    writeItems_of_inside inside next rest
  simp only [render, writeValue, innerIndent, Bool.false_and, Bool.false_eq_true, if_false, parts,
    Pen.breakLine_behind]
  rfl

/-- The text of an object is the text of its first member in front of the text of the others. -/
theorem render_obj_cons (first next : String × Json) (rest : List (String × Json)) :
    render (.obj (first :: next :: rest)) = render (.obj [first]) ++ render (.obj (next :: rest)) := by
  have inside : (writeMembers .start 0 [first]).atIndent = false :=
    writeMembers_atIndent 0 (writeValue_atIndent _ _ _ first.2) []
  -- The second member starts a new line, and from there on the pen is at the start of a text.
  have parts : writeMembers .start 0 (first :: next :: rest) =
      (writeMembers .start 0 (next :: rest)).behind
        ((writeMembers .start 0 [first]).written.push '\n') :=
    writeMembers_of_inside inside next rest
  simp only [render, writeValue, innerIndent, parts, Pen.breakLine_behind]
  rfl

/-- A list is written item by item, as if each one were alone. -/
theorem render_arr (item : Json) (rest : List Json) :
    render (.arr (item :: rest)) =
      String.join ((item :: rest).map fun item => render (.arr [item])) := by
  -- One item is split off at a time, until a list of one is left.
  induction rest generalizing item with
  | nil => simp [String.join_cons, String.join_nil]
  | cons next rest ih =>
    rw [render_arr_cons, ih next, ← String.join_cons]
    rfl

/-- A list under the only key of an object is written as if it were alone, below the key. -/
theorem render_under {key : String} (inside : (writeKey .start 0 key).atIndent = false)
    (item : Json) (rest : List Json) :
    render (.obj [(key, .arr (item :: rest))]) =
      (writeKey .start 0 key).written.push '\n' ++ render (.arr (item :: rest)) := by
  -- The list is written below its key, on lines of its own and without more indentation.
  have below := writeItems_of_inside inside item rest
  simp only [render, writeValue, writeMembers, innerIndent, inside, Bool.not_false, Bool.and_true,
    if_true, Option.getD_some, Bool.false_and, Bool.false_eq_true, if_false, below,
    Pen.breakLine_behind, Pen.behind_written]

end Yaml

namespace Logic

/-- The blocks of steps in YAML, below a heading. -/
def blocks (steps : List LogicStep) : String :=
  if steps.isEmpty then "nodes: []\n"
  else "nodes:\n" ++ String.join (steps.map fun step => Yaml.render (.arr [step.toJson]))

/-- In YAML logic is the line of its start with a block for each of its steps, in their order. -/
theorem render_toJson (logic : Logic) :
    Yaml.render logic.toJson =
      Yaml.render (.obj [("startNodeId", .ofText? logic.start)]) ++ blocks logic.steps := by
  rw [toJson, Yaml.render_obj_cons]
  congr 1
  -- Without a step the nodes are an empty list behind their key.
  cases steps : logic.steps with
  | nil => decide +kernel
  | cons step rest =>
    have heading : (Yaml.writeKey .start 0 "nodes").written.push '\n' = "nodes:\n" := by
      decide +kernel
    rw [List.map_cons, Yaml.render_under (by decide +kernel), heading, Yaml.render_arr,
      ← List.map_cons, List.map_map]
    rfl

end Logic

end Flowchart
