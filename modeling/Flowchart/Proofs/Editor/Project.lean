import Flowchart.Command.Run
import Flowchart.Proofs.Editor.Drawing
import Flowchart.Proofs.Editor.Import
import Flowchart.Proofs.Export.RoundTrip
import Flowchart.Proofs.Files
import Flowchart.Proofs.Json.Writable
import Flowchart.Proofs.Json.Written
import Flowchart.Proofs.Payload.Loadable

/-! Project files: what an editor saves can be loaded again, as far as the importer takes it, and
loading a file does what importing its text does. -/

namespace Flowchart

namespace ImportSource

/-- A value that is no text is imported as it is. -/
theorem toJson_value {value : Json} (untyped : ∀ text, value ≠ .str text) :
    toJson (.value value) = .ok value := by
  -- Only a text is parsed before it is taken.
  cases value with
  | str text => exact absurd rfl (untyped text)
  | _ => rfl

/-- A text is imported like the value that it is read as, unless that is a text again. -/
theorem payload_text {text : String} {value : Json} (read : Json.read text = .ok value)
    (untyped : ∀ inner, value ≠ .str inner) :
    payload (.text text) = payload (.value value) := by
  -- The value is no text, so it is not parsed a second time.
  have same : toJson (.text text) = toJson (.value value) := by
    rw [toJson_value untyped, toJson, readText, read]
    rfl
  simp only [payload, same]

end ImportSource

namespace Editor

variable {editor : Editor} {files : Files} {path : FilePath}

section

variable {content : ByteArray} {text : String} (found : files.read path = .ok content)
  (decoded : Encoding.decodeFile content = .ok text)

include found decoded

/-- What is loaded from a file is the value of its text. -/
theorem loadFile_of_value {value : Json} (read : Json.read text = .ok value) :
    editor.loadFile files path = editor.importFrom (.value value) := by
  simp only [loadFile, readFile, found, decoded, readValue, read]

/-- Where a file holds no value nothing is loaded. -/
theorem loadFile_of_error {error : Json.ReadError} (unread : Json.read text = .error error) :
    (editor.loadFile files path).result ≠ .ok true := by
  -- Both kinds of fault end before anything is imported.
  simp only [loadFile, readFile, found, decoded, readValue, unread]
  cases error <;> simp [quietly]

end

/-- A document that is saved stands in a file as its text. -/
theorem saveFile_read {stored : Files} {folder : FilePath} {seconds : Number}
    (saved : editor.saveFile files folder seconds = (stored, .ok path)) :
    stored.read path = .ok editor.document.toJson.indented.toUTF8 := by
  -- All but one of the ways to end fail.
  unfold saveFile at saved
  split at saved
  · cases saved
  · split at saved
    · cases saved
    · dsimp only at saved
      split at saved
      · rename_i text _ written
        obtain ⟨-, rfl⟩ := Json.writtenBy_eq_ok.mp written
        split at saved
        · cases saved
        · rename_i wrote
          cases saved
          exact Files.read_of_write wrote
      · cases saved
      · cases saved

/-- A document that was saved is loaded like an import of the value that it was saved as, if that is
what its text reads as. -/
theorem loadFile_saved {stored : Files} {folder : FilePath} {seconds : Number}
    (saved : editor.saveFile files folder seconds = (stored, .ok path))
    (undone : Json.read editor.document.toJson.indented = .ok editor.document.toJson)
    (fresh : Editor) :
    fresh.loadFile stored path = fresh.importFrom (.value editor.document.toJson) := by
  -- A document is written in ASCII, so its bytes are decoded to the text that was saved.
  have decoded := Encoding.decodeFile_toUTF8 (Json.indented_plain editor.document.toJson)
  exact loadFile_of_value (saveFile_read saved) decoded undone

/-- Loading a file does what the command line does with it, and what importing its text does, unless
the text is that of a text: the document is there afterwards if there is one to be imported, and
the answer is yes if its nodes are placed as well. -/
theorem loadFile_eq_import (editor : Editor) {files : Files} {path : FilePath}
    {content : ByteArray} {text : String} (found : files.read path = .ok content)
    (decoded : Encoding.decodeFile content = .ok text)
    (whole : ∀ inner, Json.read text ≠ .ok (.str inner)) :
    let source := ImportSource.text text
    let turn := editor.loadFile files path
    (turn.result = .ok true ↔ source.IsPlaced ∧ ∃ document, source.document = .ok document) ∧
      (∀ document, source.document = .ok document →
        turn.editor.document.nodes = document.nodes ∧
          turn.editor.document.edges = document.edges) ∧
      ∀ environment document,
        (Surroundings.mk files environment).document path = .ok document ↔
          source.document = .ok document := by
  intro source turn
  -- The program reads a document file as the text that it holds.
  have listed : ∀ environment document,
      (Surroundings.mk files environment).document path = .ok document ↔
        source.document = .ok document := by
    intro environment document
    have texts : files.readText path = .ok text :=
      bind_eq_ok.mpr ⟨content, mapError_eq_ok.mpr found, mapError_eq_ok.mpr decoded⟩
    simp only [Surroundings.document, texts, bind_eq_ok, mapError_eq_ok, Except.ok.injEq,
      exists_eq_left']
    rfl
  cases read : Json.read text with
  | error error =>
    -- What is no value is no document either.
    have unread : source.toJson = .error (ImportSource.ofReadError error) := by
      simp only [source, ImportSource.toJson, ImportSource.readText, read]
      rfl
    have nothing (document : Document) : source.document ≠ .ok document := by
      intro imported
      obtain ⟨payload, checked, -⟩ := ImportSource.document_eq_ok.mp imported
      obtain ⟨value, held, -⟩ := bind_eq_ok.mp checked
      cases unread.symm.trans held
    refine ⟨iff_of_false (loadFile_of_error found decoded read) ?_, ?_, listed⟩
    · exact fun done => nothing _ done.2.choose_spec
    · exact fun document imported => absurd imported (nothing document)
  | ok value =>
    -- A value that is no text is imported in the same way, read by the editor or by the importer.
    have untyped : ∀ inner, value ≠ .str inner := fun inner same => whole inner (same ▸ read)
    have same : source.payload = (ImportSource.value value).payload :=
      ImportSource.payload_text read untyped
    have documents : source.document = (ImportSource.value value).document := by
      simp only [ImportSource.document, same]
    have placed : source.IsPlaced ↔ (ImportSource.value value).IsPlaced := by
      simp only [ImportSource.IsPlaced, same]
    -- The editor has read the file already, and hands on the value.
    have imported : turn = editor.importFrom (.value value) := loadFile_of_value found decoded read
    refine ⟨?_, fun document put => ?_, listed⟩
    · rw [imported, placed, documents]
      exact importFrom_eq_true
    · obtain ⟨viewport, put⟩ := importFrom_editor (documents ▸ put)
      rw [imported, put]
      exact ⟨rfl, rfl⟩

/-- A home with one file. -/
def oneFile (value : Json) : Files :=
  ⟨["home"], [(["home", "flow.json"], value.indented.toUTF8)], []⟩

/-- The one file is found under its name. -/
theorem oneFile_read (value : Json) :
    (oneFile value).read ⟨false, ["flow.json"]⟩ = .ok value.indented.toUTF8 := by
  rfl

/-- A document with one step. -/
def oneStep : Json := .obj [("nodes", .arr [.obj [("id", .str "a"), ("type", .str "step")]])]

/-- A file with a document is loaded. -/
theorem oneStep_loaded :
    let turn := blank.loadFile (oneFile oneStep) ⟨false, ["flow.json"]⟩
    turn.result = .ok true ∧ turn.editor.document.nodes.map Node.id = [.str "a"] := by
  intro turn
  have read : Json.read oneStep.indented = .ok oneStep := Json.read_indented (by decide +kernel)
  have whole : ∀ inner, Json.read oneStep.indented ≠ .ok (.str inner) := fun inner same =>
    nomatch read.symm.trans same
  obtain ⟨loads, same, -⟩ := blank.loadFile_eq_import (oneFile_read oneStep)
    (Encoding.decodeFile_toUTF8 (Json.indented_plain oneStep)) whole
  -- The text is imported like the value.
  have checked : ∃ payload : Payload, ImportSource.payload (.text oneStep.indented) = .ok payload ∧
      payload.isShallow = true ∧ payload.toDocument.nodes.map Node.id = [.str "a"] ∧
      ∀ node ∈ payload.nodes, node.position = NodePayload.homePosition := by
    rw [ImportSource.payload_text read nofun]
    exact ⟨_, rfl, rfl, rfl, fun node member => by rw [List.mem_singleton.mp member]⟩
  obtain ⟨payload, checked, shallow, ids, home⟩ := checked
  -- Its only node has the position that nodes have by default, which names both axes.
  have placed : ImportSource.IsPlaced (.text oneStep.indented) := by
    intro other again node member
    cases checked.symm.trans again
    exact .inr (by rw [home node member]; decide)
  have imported := ImportSource.document_of_shallow checked shallow
  exact ⟨loads.mpr ⟨placed, _, imported⟩, by rw [(same _ imported).1, ids]⟩

/-- A file with the text of a document, quoted as a text, is loaded, although nothing is imported
from it. -/
theorem quoted_loaded :
    let quoted : Json := .str "\x7b\"nodes\": []\x7d"
    (blank.loadFile (oneFile quoted) ⟨false, ["flow.json"]⟩).result = .ok true ∧
      Encoding.decodeFile quoted.indented.toUTF8 = .ok quoted.indented ∧
      (ImportSource.text quoted.indented).document = .error .notObject := by
  intro quoted
  -- The file holds a text, and the text holds a document.
  have read : Json.read quoted.indented = .ok quoted := Json.read_indented (by decide +kernel)
  have decoded := Encoding.decodeFile_toUTF8 (Json.indented_plain quoted)
  have inner : Json.read "\x7b\"nodes\": []\x7d" = .ok (.obj [("nodes", .arr [])]) :=
    toOption_eq_some.mp (by decide +kernel)
  have checked : ImportSource.payload (.value quoted) = .ok ⟨[], [], Payload.homeViewport⟩ := by
    -- The importer is given the inner text by the editor, and reads it again.
    have given : ImportSource.toJson (.value quoted) = .ok (.obj [("nodes", .arr [])]) := by
      simp only [quoted, ImportSource.toJson, ImportSource.readText, inner]
      rfl
    exact bind_eq_ok.mpr ⟨_, given, rfl⟩
  refine ⟨?_, decoded, ?_⟩
  · rw [loadFile_of_value (oneFile_read quoted) decoded read, importFrom_eq_true]
    refine ⟨fun payload again => ?_, _, ImportSource.document_of_shallow checked rfl⟩
    cases checked.symm.trans again
    exact nofun
  · simp only [ImportSource.document, ImportSource.payload, ImportSource.toJson,
      ImportSource.readText, read]
    rfl

end Editor

/-- A document with a node that lacks what the importer asks for is refused. -/
theorem Editor.importFrom_of_lacking {document : Document}
    (lacking : ¬ ∀ node ∈ document.nodes, node.isLoadable = true) (fresh : Editor) :
    (fresh.importFrom (.value document.toJson)).result = .ok false ∧
      (fresh.importFrom (.value document.toJson)).editor = fresh := by
  have given : ImportSource.toJson (.value document.toJson) = .ok document.toJson := rfl
  cases checked : ImportSource.payload (.value document.toJson) with
  | ok payload =>
    -- Nothing but what is asked for is read.
    simp only [ImportSource.payload, given, bind_eq_ok, Except.ok.injEq, exists_eq_left'] at checked
    obtain ⟨members, found, read⟩ := checked
    cases found
    exact absurd (Payload.isLoadable_of_shape (mapError_eq_ok.mp read)) lacking
  | error error =>
    have failed : ImportSource.document (.value document.toJson) = .error error := by
      simp only [ImportSource.document, checked]
      rfl
    have format : error.isFormat = true := ImportSource.isFormat_of_value given checked
    exact ⟨by simp only [importFrom, failed, format, if_true], importFrom_of_error failed⟩

namespace Workspace.Drawn

variable {space : Workspace}

/-- What is drawn with what the importer asks for is read as a payload that is restored to the same
nodes and edges. -/
theorem exists_payload (drawn : space.Drawn)
    (loadable : ∀ node ∈ space.document.nodes, node.isLoadable = true) :
    ∃ payload, (ImportSource.value space.document.toJson).payload = .ok payload ∧
      payload.toDocument =
        { space.document with viewport := doubleMembers Payload.homeViewport } := by
  have portable : space.document.Portable :=
    ⟨fun node member => (drawn.nodes node member).portable
      (Node.isLoadable_iff.mp (loadable node member)).1,
      drawn.viewport⟩
  -- A payload stands for the document, and is what its value is read as.
  obtain ⟨payload, stands⟩ := drawn.sound.exists_payload portable
  have read : Payload.shape space.document.toJson = .ok payload :=
    stands.shape_toJson drawn.sound.coherent (stands.legible_of_loadable loadable) drawn.viewport
  obtain ⟨members, written, found⟩ := ImportSource.graph_toJson space.document
  exact ⟨payload, ImportSource.payload_of_graph (by rw [written]; nofun) found (written ▸ read),
    stands.toDocument_eq⟩

/-- A drawn document with what the importer asks for is imported as it is, apart from its view, if
nothing in it is nested too deep. -/
theorem imported (drawn : space.Drawn)
    (loadable : ∀ node ∈ space.document.nodes, node.isLoadable = true)
    (shallow : ∀ node ∈ space.document.nodes, node.isShallow = true) (fresh : Editor) :
    let turn := fresh.importFrom (.value space.document.toJson)
    turn.result = .ok true ∧ ∃ viewport, turn.editor = fresh.withDocument
      { space.document with viewport } := by
  obtain ⟨payload, read, same⟩ := drawn.exists_payload loadable
  have restored : ImportSource.document (.value space.document.toJson) = .ok payload.toDocument :=
    ImportSource.document_of_shallow read (Payload.isShallow_iff.mpr (same ▸ shallow))
  -- Drawn nodes are somewhere, so the view can be moved to them.
  obtain ⟨viewport, shown⟩ : ∃ viewport,
      payload.toDocument.fittingView Editor.fitPadding = .ok viewport := by
    refine (Document.exists_fittingView Editor.fitPadding_held).mpr ?_
    rw [same]
    exact fun node member => (drawn.nodes node member).placed
  obtain ⟨done, placed⟩ := Editor.importFrom_of_shown restored shown
  refine ⟨done, viewport, placed.trans ?_⟩
  rw [same]

/-- A drawn document with what the importer asks for fails to be imported if something in it is
nested too deep, and nothing changes then. -/
theorem not_imported (drawn : space.Drawn)
    (loadable : ∀ node ∈ space.document.nodes, node.isLoadable = true)
    (deep : ¬ ∀ node ∈ space.document.nodes, node.isShallow = true) (fresh : Editor) :
    let turn := fresh.importFrom (.value space.document.toJson)
    turn.result = .error (.source (.unwritable .tooDeep)) ∧ turn.editor = fresh := by
  obtain ⟨payload, read, same⟩ := drawn.exists_payload loadable
  -- What is too deep in the payload is too deep in the nodes that stand for it.
  have refused : payload.isShallow = false := by
    rw [← Bool.not_eq_true, Payload.isShallow_iff, same]
    exact deep
  have failed := ImportSource.document_of_deep read refused
  refine ⟨?_, Editor.importFrom_of_error failed⟩
  simp only [Editor.importFrom, failed]
  rfl

end Workspace.Drawn

namespace EditorSession

/-- A document that was drawn by hand and saved can be loaded into any editor exactly if each of its
nodes has a type, the condition of each branch, if there is one, is an object, and no settings are
nested too deep. Then the nodes and edges are the same as before; otherwise the editor stays as it
is. It is told so where a type or a condition is to blame, and loading fails outright where only the
depth is. -/
theorem run_save_load {session : EditorSession} (empty : session.editor.document = .empty)
    {actions : List EditorAction} (drawing : ∀ action ∈ actions, action.IsDrawing)
    {files stored : Files} {folder path : FilePath} {seconds : Number}
    (saved : (session.run actions).editor.saveFile files folder seconds = (stored, .ok path))
    (undone : Json.read (session.run actions).editor.document.toJson.indented =
      .ok (session.run actions).editor.document.toJson)
    (fresh : Editor) :
    let document := (session.run actions).editor.document
    let turn := fresh.loadFile stored path
    (turn.result = .ok true ↔
      ∀ node ∈ document.nodes, node.isLoadable = true ∧ node.isShallow = true) ∧
      (turn.result = .ok true → turn.editor.document.nodes = document.nodes ∧
        turn.editor.document.edges = document.edges) ∧
      (turn.result ≠ .ok true → turn.editor = fresh) ∧
      ((∃ node ∈ document.nodes, node.isLoadable = false) → turn.result = .ok false) ∧
      ((∀ node ∈ document.nodes, node.isLoadable = true) →
        (∃ node ∈ document.nodes, node.isShallow = false) →
          turn.result = .error (.source (.unwritable .tooDeep))) := by
  intro document turn
  -- The run ends with a drawn document, and loading comes to the import of its value.
  have drawn : (session.run actions).editor.space.Drawn := run_drawn drawing (.start empty)
  have loaded : turn = fresh.importFrom (.value document.toJson) :=
    Editor.loadFile_saved saved undone fresh
  rw [loaded, forall₂_and]
  -- What cannot be loaded is refused by the format, and only then the depth matters.
  by_cases loadable : ∀ node ∈ document.nodes, node.isLoadable = true
  · have lacking : ¬ ∃ node ∈ document.nodes, node.isLoadable = false := by
      simpa using loadable
    -- The document is accepted unless a value in it lies too deep.
    by_cases shallow : ∀ node ∈ document.nodes, node.isShallow = true
    · obtain ⟨done, viewport, placed⟩ :
          (fresh.importFrom (.value document.toJson)).result = .ok true ∧ ∃ viewport,
            (fresh.importFrom (.value document.toJson)).editor =
              fresh.withDocument { document with viewport } := drawn.imported loadable shallow fresh
      refine ⟨iff_of_true done ⟨loadable, shallow⟩, fun _ => ?_, fun undone => absurd done undone,
        fun some_ => absurd some_ lacking, fun _ deep => absurd deep (by simpa using shallow)⟩
      rw [placed]
      exact ⟨rfl, rfl⟩
    · obtain ⟨failed, kept⟩ := drawn.not_imported loadable shallow fresh
      have undone : (fresh.importFrom (.value document.toJson)).result ≠ .ok true := fun done => by
        cases failed.symm.trans done
      exact ⟨iff_of_false undone fun all => shallow all.2, fun done => absurd done undone,
        fun _ => kept, fun some_ => absurd some_ lacking, fun _ _ => failed⟩
  · obtain ⟨refused, kept⟩ := Editor.importFrom_of_lacking loadable fresh
    have undone : (fresh.importFrom (.value document.toJson)).result ≠ .ok true := by
      rw [refused]
      nofun
    exact ⟨iff_of_false undone fun all => loadable all.1, fun done => absurd done undone,
      fun _ => kept, fun _ => refused, fun all => absurd all loadable⟩

/-- A session with nothing in it. -/
def blank : EditorSession := ⟨Editor.blank, []⟩

/-- A question and a call, joined, with settings for the call. -/
def asking : List EditorAction :=
  [.addNode (.str "if") .null (.obj [("x", .int 80), ("y", .int 35)]),
    .addNode (.str "http") (.str "Call") (.obj [("x", .int 280), ("y", .int 35)]),
    .connect (.str "u1") (.str "trueOut") (.str "u2") (.str "in"),
    .update (.str "u2") (.obj [("url", .str "/adults")]) .null]

/-- What was drawn is saved, and loaded into another editor. -/
theorem asking_loaded :
    let drawn := (blank.run asking).editor
    let saving := drawn.saveFile (.empty ["home"]) ⟨false, ["projects"]⟩ (.int 1)
    ∃ path, saving.2 = .ok path ∧ (Editor.blank.loadFile saving.1 path).result = .ok true ∧
      (Editor.blank.loadFile saving.1 path).editor.document.nodes = drawn.document.nodes := by
  intro drawn saving
  -- All that is drawn is of the kinds that a saved document can hold.
  have drawing : ∀ action ∈ asking, action.IsDrawing := by
    have patch : (Json.obj [("url", .str "/adults")]).IsFinite := rfl
    simp only [asking, List.forall_mem_cons, EditorAction.IsDrawing, true_and]
    exact ⟨⟨⟨_, rfl⟩, none, rfl⟩, ⟨⟨_, rfl⟩, some "Call", rfl⟩, ⟨⟨_, rfl⟩, patch, none, rfl⟩,
      List.forall_mem_nil _⟩
  have undone : Json.read drawn.document.toJson.indented = .ok drawn.document.toJson :=
    Json.read_indented (by decide +kernel)
  have saved : saving = (saving.1, .ok ⟨false, ["projects", "flow-1000.json"]⟩) :=
    eq_mk_ok (by decide +kernel)
  obtain ⟨loads, same, -⟩ := run_save_load rfl drawing saved undone Editor.blank
  have done := loads.mpr (by decide +kernel)
  exact ⟨_, congrArg Prod.snd saved, done, (same done).1⟩

/-- A question whose condition is to be thought of later. -/
def puttingOff : List EditorAction :=
  [.addNode (.str "if") .null (.obj [("x", .int 80), ("y", .int 35)]),
    .update (.str "u1") (.obj [("conditionData", .str "later")]) .null]

/-- A document is saved, and cannot be loaded. -/
theorem puttingOff_refused :
    let drawn := (blank.run puttingOff).editor
    let saving := drawn.saveFile (.empty ["home"]) ⟨false, ["projects"]⟩ (.int 1)
    (∀ action ∈ puttingOff, action.IsDrawing) ∧
      Json.read drawn.document.toJson.indented = .ok drawn.document.toJson ∧
      ∃ path, saving.2 = .ok path ∧
        (Editor.blank.loadFile saving.1 path).result = .ok false := by
  intro drawn saving
  -- Settings may hold a text where a condition belongs, so this is a drawing like any other.
  have drawing : ∀ action ∈ puttingOff, action.IsDrawing := by
    have patch : (Json.obj [("conditionData", .str "later")]).IsFinite := rfl
    simp only [puttingOff, List.forall_mem_cons, EditorAction.IsDrawing]
    exact ⟨⟨⟨_, rfl⟩, none, rfl⟩, ⟨⟨_, rfl⟩, patch, none, rfl⟩, List.forall_mem_nil _⟩
  have undone : Json.read drawn.document.toJson.indented = .ok drawn.document.toJson :=
    Json.read_indented (by decide +kernel)
  have saved : saving = (saving.1, .ok ⟨false, ["projects", "flow-1000.json"]⟩) :=
    eq_mk_ok (by decide +kernel)
  refine ⟨drawing, undone, _, congrArg Prod.snd saved, ?_⟩
  rw [Editor.loadFile_saved saved undone]
  exact (Editor.importFrom_of_lacking (by decide +kernel) _).1

end EditorSession

end Flowchart
