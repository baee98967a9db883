import Flowchart.Proofs.Document.View
import Flowchart.Proofs.Editor.Session

/-! An import as a whole. A source that is no document leaves the editor as it is; a document is put
in place together with the view that shows its nodes, if each of them says where it is. -/

namespace Flowchart

namespace ImportSource

variable {source : ImportSource}

/-- No whole number in the text of a source has too many digits to be read. -/
def IsReadable (source : ImportSource) : Prop :=
  ∀ digits, source.toJson ≠ .error (.tooManyDigits digits)

/-- No value that is read of a source is nested too deep. -/
def IsShallow (source : ImportSource) : Prop :=
  ∀ payload, source.payload = .ok payload → payload.isShallow = true

/-- Every node that is read of a source names both axes in its position, or leaves it out. -/
def IsPlaced (source : ImportSource) : Prop :=
  ∀ payload, source.payload = .ok payload → ∀ node ∈ payload.nodes, node.IsPlaced

/-- A read error is told as a fault of the format, unless it is for a number. -/
theorem ofReadError_cases (error : Json.ReadError) :
    (ofReadError error).isFormat = true ∨ ∃ digits, ofReadError error = .tooManyDigits digits := by
  -- The reader has two faults, and only the second is none of the format.
  cases error with
  | malformed fault line column position => exact .inl rfl
  | tooManyDigits digits => exact .inr ⟨digits, rfl⟩

/-- A source that has no value is faulty in its format, or has a number with too many digits. -/
theorem toJson_eq_error {error : ImportError} (failed : source.toJson = .error error) :
    error.isFormat = true ∨ ∃ digits, error = .tooManyDigits digits := by
  have told {read : Except Json.ReadError Json}
      (failed : read.mapError ofReadError = .error error) :
      error.isFormat = true ∨ ∃ digits, error = .tooManyDigits digits := by
    cases read with
    | ok value => cases failed
    | error fault =>
      cases failed
      exact ofReadError_cases fault
  -- Texts and bytes are read, and so is a value that is a text; any other value stands as it is.
  unfold toJson at failed
  split at failed
  · exact told failed
  · exact told failed
  · cases failed
  · split at failed
    · exact told failed
    · cases failed
      exact .inl rfl

/-- A value without nodes is faulty in its format. -/
theorem graph_eq_error {value : Json} {error : ImportError} (failed : graph value = .error error) :
    error.isFormat = true := by
  unfold graph graphMembers at failed
  -- A value that is no object, and a graph that is none, are the two ways to fail.
  split at failed
  · dsimp only at failed
    split_ifs at failed
    cases failed
    rfl
  · cases failed
    rfl

/-- A value that no payload is read of is faulty in its format. -/
theorem isFormat_of_value {value : Json} {error : ImportError} (read : source.toJson = .ok value)
    (failed : source.payload = .error error) : error.isFormat = true := by
  simp only [payload, read, Bind.bind, Except.bind] at failed
  -- What was read fails by its graph or by its shape, and both are faults of the format.
  cases held : graph value with
  | error fault =>
    simp only [held, Except.error.injEq] at failed
    subst failed
    exact graph_eq_error held
  | ok members =>
    simp only [held] at failed
    cases shaped : Payload.shape (.obj members) with
    | ok payload => simp [shaped, Except.mapError] at failed
    | error issues =>
      simp only [shaped, Except.mapError, Except.error.injEq] at failed
      subst failed
      rfl

/-- What cannot be imported is faulty in its format, unless it cannot be read in the first place or is
nested too deep. -/
theorem isFormat_iff {error : ImportError} (failed : source.document = .error error) :
    error.isFormat = true ↔ source.IsReadable ∧ source.IsShallow := by
  cases read : source.toJson with
  | error fault =>
    -- The fault of the text is that of the import.
    have shallow : source.IsShallow := fun payload checked => by
      obtain ⟨value, whole, -⟩ := bind_eq_ok.mp checked
      cases read.symm.trans whole
    have same : fault = error := by
      simp only [document, payload, read] at failed
      cases failed
      rfl
    subst same
    rw [and_iff_left shallow]
    refine ⟨?_, fun readable => ?_⟩
    · rintro format digits unread
      cases read.symm.trans unread
      cases format
    · obtain format | ⟨digits, rfl⟩ := toJson_eq_error read
      · exact format
      · exact absurd read (readable digits)
  | ok value =>
    -- A text that was read has no number with too many digits.
    have readable : source.IsReadable := fun digits unread => by
      cases read.symm.trans unread
    rw [and_iff_right readable]
    cases checked : source.payload with
    | ok payload =>
      -- The checked document has no value that could be restored, so it is nested too deep.
      rw [document_of_payload checked] at failed
      split_ifs at failed with shallow
      cases failed
      exact iff_of_false Bool.false_ne_true fun all => shallow (all payload checked)
    | error fault =>
      have same : fault = error := by
        simp only [document, checked] at failed
        cases failed
        rfl
      subst same
      have shallow : source.IsShallow := fun payload given => by
        cases checked.symm.trans given
      exact iff_of_true (isFormat_of_value read checked) shallow

end ImportSource

namespace Editor

variable {editor : Editor} {source : ImportSource}

/-- The distance that nodes keep from the edge of the view, as a double. -/
theorem fitPadding_held : Number.floatOfInt? 20 = some 20.0 := by
  decide +kernel

/-- A document is put in place under the view that shows its nodes. -/
theorem importFrom_of_shown {document : Document} {viewport : Json.Members}
    (read : source.document = .ok document)
    (shown : document.fittingView fitPadding = .ok viewport) :
    (editor.importFrom source).result = .ok true ∧
      (editor.importFrom source).editor = editor.withDocument { document with viewport } := by
  -- Once the view is computed, fitting only writes it.
  have fitted : (editor.withDocument document).fit fitPadding =
      .ok (editor.withDocument { document with viewport }) :=
    bind_eq_ok.mpr ⟨{ document with viewport }, bind_eq_ok.mpr ⟨viewport, shown, rfl⟩, rfl⟩
  simp only [importFrom, read, fitted, and_self]

/-- An import whose nodes cannot be shown fails outright, with its document in place already. -/
theorem importFrom_of_hidden {document : Document} (read : source.document = .ok document)
    (hidden : ∀ viewport, document.fittingView fitPadding ≠ .ok viewport) :
    (∃ fault, (editor.importFrom source).result = .error fault) ∧
      (editor.importFrom source).editor = editor.withDocument document := by
  simp only [importFrom, read]
  -- The document is in place before the view is fitted, so it stays there.
  cases fitted : (editor.withDocument document).fit fitPadding with
  | error fault => exact ⟨⟨.view fault, rfl⟩, rfl⟩
  | ok moved =>
    obtain ⟨shown, view, -⟩ := bind_eq_ok.mp fitted
    obtain ⟨viewport, known, -⟩ := bind_eq_ok.mp view
    exact absurd known (hidden viewport)

/-- The view can be moved to the nodes of a source exactly if they are placed. -/
theorem isPlaced_iff {payload : Payload} (checked : source.payload = .ok payload) :
    source.IsPlaced ↔
      ∃ viewport, payload.toDocument.fittingView fitPadding = .ok viewport := by
  -- The payload that was read is the only one there is to ask.
  rw [show fitPadding = .int 20 from rfl, Payload.exists_fittingView fitPadding_held]
  refine ⟨fun placed => placed payload checked, fun placed other same => ?_⟩
  cases checked.symm.trans same
  exact placed

/-- An import puts a document in place and tells so if there is one and its nodes are placed. -/
theorem importFrom_eq_true :
    (editor.importFrom source).result = .ok true ↔
      source.IsPlaced ∧ ∃ document, source.document = .ok document := by
  cases read : source.document with
  | error error =>
    -- Nothing comes of an error but another error, or the answer that nothing was done.
    refine iff_of_false (fun done => ?_) ?_
    · simp only [importFrom, read] at done
      split at done <;> cases done
    · rintro ⟨-, document, ⟨⟩⟩
  | ok document =>
    obtain ⟨payload, checked, -, rfl⟩ := ImportSource.document_eq_ok.mp read
    rw [isPlaced_iff checked]
    by_cases visible : ∃ viewport, payload.toDocument.fittingView fitPadding = .ok viewport
    · obtain ⟨viewport, shown⟩ := visible
      exact iff_of_true (importFrom_of_shown read shown).1 ⟨⟨viewport, shown⟩, _, rfl⟩
    · obtain ⟨fault, failed⟩ : ∃ fault, (editor.importFrom source).result = .error fault :=
        (importFrom_of_hidden read fun viewport shown => visible ⟨viewport, shown⟩).1
      refine iff_of_false (fun done => ?_) fun placed => visible placed.1
      cases failed.symm.trans done

/-- An import tells that nothing was done if there is no document to be had from what was read. -/
theorem importFrom_eq_false :
    (editor.importFrom source).result = .ok false ↔
      (source.IsReadable ∧ source.IsShallow) ∧ ∀ document, source.document ≠ .ok document := by
  -- Nothing is done only where the document could not be read, and the fault is one of the format.
  cases read : source.document with
  | error error =>
    rw [← ImportSource.isFormat_iff read]
    simp only [importFrom, read]
    cases error.isFormat <;> simp [quietly]
  | ok document =>
    refine iff_of_false (fun undone => ?_) fun none => none.2 document rfl
    simp only [importFrom, read] at undone
    split at undone <;> cases undone

/-- An import fails outright only for a number that cannot be read, for a value that is nested too
deep, or for a node whose position leaves out an axis. Otherwise it is all or nothing: either there
is no document and the editor stays as it is, or the document of the source is in place, under the
view that shows its nodes. -/
theorem importFrom_atomic (editor : Editor) (source : ImportSource) :
    let turn := editor.importFrom source
    ((∃ done, turn.result = .ok done) ↔
      source.IsReadable ∧ source.IsShallow ∧ source.IsPlaced) ∧
      (turn.result = .ok false →
        turn.editor = editor ∧ ∀ document, source.document ≠ .ok document) ∧
      (turn.result = .ok true → ∃ document viewport, source.document = .ok document ∧
        document.fittingView fitPadding = .ok viewport ∧
        turn.editor = editor.withDocument { document with viewport }) := by
  intro turn
  cases read : source.document with
  | error error =>
    -- What is read and not nested too deep comes to a document, so there is none to be placed.
    have placed (shallow : source.IsShallow) : source.IsPlaced := fun payload checked =>
      nomatch (ImportSource.document_of_shallow checked (shallow payload checked)).symm.trans read
    have undone : turn.result ≠ .ok true := fun done => by
      obtain ⟨-, document, imported⟩ := importFrom_eq_true.mp done
      exact nomatch read.symm.trans imported
    -- The call returns exactly when the fault is one that is caught.
    have done_iff : (∃ done, turn.result = .ok done) ↔ source.IsReadable ∧ source.IsShallow := by
      rw [Bool.exists_bool, or_iff_left undone, importFrom_eq_false, read]
      exact and_iff_left nofun
    refine ⟨?_, fun _ => ⟨importFrom_of_error read, nofun⟩, fun done => absurd done undone⟩
    rw [done_iff]
    exact and_congr_right' (iff_self_and.mpr placed)
  | ok document =>
    -- A document came of the source, so that whatever number stands in it was read.
    have undone : turn.result ≠ .ok false := fun ended =>
      (importFrom_eq_false.mp ended).2 document read
    obtain ⟨payload, checked, shallow, rfl⟩ := ImportSource.document_eq_ok.mp read
    have readable : source.IsReadable := by
      obtain ⟨value, whole, -⟩ := bind_eq_ok.mp checked
      exact fun digits unread => nomatch whole.symm.trans unread
    have shallow : source.IsShallow := by
      intro other again
      cases checked.symm.trans again
      exact shallow
    refine ⟨?_, fun ended => absurd ended undone, fun done => ?_⟩
    · rw [Bool.exists_bool, or_iff_right undone, importFrom_eq_true, and_iff_right readable,
        and_iff_right shallow]
      exact and_iff_left ⟨_, read⟩
    · obtain ⟨viewport, shown⟩ := (isPlaced_iff checked).mp (importFrom_eq_true.mp done).1
      exact ⟨_, viewport, rfl, shown, (importFrom_of_shown read shown).2⟩

/-- An editor with nothing in it. -/
def blank : Editor where
  tools := []
  properties := []
  catalog := .ofList []
  host := none
  inlineForms := false
  options := .nowhere
  space := .start .default (.numbered [])

/-- A document with one step, whose position leaves out an axis. -/
def unplaced : Json :=
  .obj [("nodes", .arr [.obj [("id", .str "a"), ("type", .str "step"),
    ("position", .obj [("y", .int 1)])]])]

/-- A step without a place is in the document although its import failed. -/
theorem importFrom_unplaced :
    let turn := blank.importFrom (.value unplaced)
    turn.result = .error (.view (.missing "x")) ∧ blank.document.nodes = [] ∧
      turn.editor.document.nodes.map Node.id = [.str "a"] :=
  -- The document is swapped before its view is fitted, so the failure comes too late.
  ⟨rfl, rfl, rfl⟩

end Editor

end Flowchart
