import Flowchart.Document.Session
import Flowchart.Document.View
import Flowchart.Editor.Host
import Flowchart.Export
import Flowchart.Files
import Flowchart.Form
import Flowchart.Import
import Flowchart.Relation.Server
import Flowchart.Schema.Catalog

/-! An editing session over one document: changes, forms, exports and imports, with a host that is
told what the user should know. -/

namespace Flowchart

/-- Where the options of relation fields come from. -/
inductive OptionSource where
  | nowhere
  /-- The program around the editor answers lookups. -/
  | program
  | server (server : RelationServer)

/-- An editing session. -/
structure Editor where
  tools : List Tool
  properties : List Property
  catalog : Catalog
  host : Option Host
  /-- Steps are edited in forms when there is no host. -/
  inlineForms : Bool
  options : OptionSource
  space : Workspace

/-- The editor after an action, what the host was told on the way, and what the action answers. -/
structure Turn (α : Type) where
  editor : Editor
  told : List HostCall
  result : α

/-- Why an import fails in another way than by a bad document. -/
inductive ImportFault where
  | source (error : ImportError)
  /-- The view cannot be moved to the imported nodes. -/
  | view (fault : DocumentFault)
  /-- The path of the file is no path at all. -/
  | file (fault : FileFault)

/-- Why a document is not saved. -/
inductive SaveFault where
  | file (fault : FileFault)
  /-- The time has no whole milliseconds. -/
  | time (fault : Number.Fault)
  /-- The document has no text. -/
  | unwritable (reason : Unwritable)

namespace Editor

/-- The document being edited. -/
def document (editor : Editor) : Document := editor.space.document

/-- The settings of the session. -/
def settings (editor : Editor) : Settings := editor.space.settings

/-- The editor with another document. -/
def withDocument (editor : Editor) (document : Document) : Editor :=
  { editor with space := { editor.space with document } }

/-- The server that settings name, unless the program answers lookups itself. -/
def optionsOf (settings : Settings) (program : Bool) : OptionSource :=
  -- A program that answers itself comes before any address.
  if program then .program
  else match settings.relationBaseUrl with
    | none => .nowhere
    | some address =>
      if address = "" then .nowhere
      else .server (.atAddress address (.float settings.relationTimeout) (.obj []))

/-- The calls that come through to the host. -/
def tell (editor : Editor) (calls : List HostCall) : List HostCall :=
  match editor.host with
  | some host => calls.filter host.hears
  | none => []

/-- An action that tells the host nothing. -/
def quietly {α : Type} (editor : Editor) (result : α) : Turn α := ⟨editor, [], result⟩

/-- What the document is held against before it is exported. -/
def compiler (editor : Editor) : Compiler :=
  ⟨editor.catalog.schemas, editor.properties, editor.settings⟩

/-- Replaces the properties that conditions can be about. -/
def setProperties (editor : Editor) (properties : List Property) : Editor :=
  { editor with properties }

/-- Puts another host in the place of the present one. -/
def attach (editor : Editor) (host : Option Host) : Editor := { editor with host }

/-- Adds a node. -/
def addNode (editor : Editor) (type label position : Json) :
    Except DocumentFault (Editor × String) := do
  let (space, id) ← editor.space.addNode type label position
  return ({ editor with space }, id)

/-- Adds a node for an entry of the palette, labelled like the entry. -/
def dropTool (editor : Editor) (tool position : Json) :
    Except DocumentFault (Editor × String) :=
  let entry := editor.tools.find? fun entry => .str entry.id == tool
  editor.addNode tool (.ofText? (entry.map Tool.label)) position

/-- Makes a connection if the rules allow it. -/
def connect (editor : Editor) (source sourcePort target targetPort : Json) :
    Editor × Option Edge :=
  let (space, edge) := editor.space.connect source sourcePort target targetPort
  ({ editor with space }, edge)

/-- The port that a connection enters when none is named. -/
def defaultTargetPort : Json := .str PortGroup.input.name

/-- Removes a node with its edges. -/
def removeNode (editor : Editor) (id : Json) : Editor :=
  editor.withDocument (editor.document.removeNode id)

/-- Removes an edge. -/
def removeEdge (editor : Editor) (id : Json) : Editor :=
  editor.withDocument (editor.document.removeEdge id)

/-- The form for a step. -/
def stepForm (editor : Editor) (node : Node) : StepForm :=
  let hasServer := match editor.options with
    | .nowhere => false
    | _ => true
  StepForm.ofNode node (editor.catalog.resolve node.type editor.settings.defaultSectionTitle)
    fun field => Lookup.start field hasServer (.float editor.settings.relationDebounceSeconds)
      (.float editor.settings.relationScrollThreshold)

/-- Opens a form on a node. A host edits steps in its own way, so there is no form for them then;
nor is there one when nobody can edit the step. -/
def edit (editor : Editor) (id : Json) : Turn (Except DocumentFault (Option Form)) :=
  match editor.document.node? id with
  | none =>
    ⟨editor, editor.tell [.notice "Step not found" "The selected step no longer exists." .warning],
      .ok none⟩
  | some node =>
    -- Conditions are edited here even when there is a host.
    if node.isBranch then
      editor.quietly (.ok (some (.condition (.ofNode node editor.properties))))
    else if editor.host.isSome then
      ⟨editor, editor.tell [.edit id node.type (node.config.members?.getD [])], .ok none⟩
    else if editor.inlineForms then editor.quietly (.ok (some (.step (editor.stepForm node))))
    else
      match node.type.display with
      | .error reason => editor.quietly (.error (.unwritable reason))
      | .ok type =>
        let message := "No editor is registered for \"" ++ type ++ "\" steps."
        ⟨editor, editor.tell [.notice "Editor unavailable" message .warning], .ok none⟩

/-- Stores a form in the document. -/
def save (editor : Editor) (form : Form) : Except DocumentFault (Editor × Bool) := do
  let (document, saved) ← form.save editor.document
  return (editor.withDocument document, saved)

/-- Commits an edit that comes back from the host, and tells whether there was a node for it. -/
def update (editor : Editor) (id patch label : Json) : Turn (Except DocumentFault Bool) :=
  match editor.document.updateNode id patch label with
  | .ok (document, _) => (editor.withDocument document).quietly (.ok true)
  -- Only the want of a node is told to the user.
  | .error (.unknownNode _) =>
    ⟨editor, editor.tell [.notice "Step not found" "The edited step no longer exists." .warning],
      .ok false⟩
  | .error fault => editor.quietly (.error fault)

/-- The logic and the graph of the document. When something is lacking the host is told what and
where. -/
def exportData (editor : Editor) : Turn (Except DocumentFault (Option Json)) :=
  match editor.compiler.finding? editor.document with
  | .error fault => editor.quietly (.error fault)
  | .ok none =>
    editor.quietly (editor.document.compile.map fun logic =>
      some (Compiler.bundle editor.document logic))
  | .ok (some finding) =>
    -- The host first goes to the node, and is then told what it lacks.
    let focus := (finding.node.toList.filter Json.isTruthy).map HostCall.focus
    let notice := HostCall.notice "Attention" finding.lack.message .warning
    ⟨editor, editor.tell (focus ++ [notice]), .ok none⟩

/-- How far nodes are kept from the edge of the view. -/
def fitPadding : Json := .int 20

/-- Moves the view so that every node shows. -/
def fit (editor : Editor) (padding : Json) : Except DocumentFault Editor := do
  return editor.withDocument (← editor.document.fit padding)

/-- Replaces the document by an imported one, and tells whether it did. A bad document changes
nothing. -/
def importFrom (editor : Editor) (source : ImportSource) : Turn (Except ImportFault Bool) :=
  match source.document with
  | .error error =>
    -- Only a fault of the format is told to the user and leaves the editor as it was.
    if error.isFormat then
      ⟨editor, editor.tell [.notice "Error" "Invalid file." .warning], .ok false⟩
    else editor.quietly (.error (.source error))
  | .ok document =>
    let replaced := editor.withDocument document
    -- The document is in place before the view is moved.
    match replaced.fit fitPadding with
    | .error error => replaced.quietly (.error (.view error))
    | .ok fitted =>
      ⟨fitted, fitted.tell [.notice "Success" "Project imported!" .success], .ok true⟩

/-- Removes every node and edge, and tells whether it did; if asked to, only with the consent that
the host obtains. -/
def clear (editor : Editor) (ask : Bool) : Turn Bool :=
  match ask, editor.host with
  | true, some host =>
    -- A host that does not obtain consent gives it.
    let told := editor.tell [.confirm "Clear" "Delete everything?"]
    if host.grants then ⟨editor.withDocument editor.document.clear, told, true⟩
    else ⟨editor, told, false⟩
  | _, _ => (editor.withDocument editor.document.clear).quietly true

/-- The text that a document is saved as. -/
def savedText (document : Document) : Except Unwritable String :=
  document.toJson.writtenBy Json.indented

/-- Writes the document to a new file in a folder, and names the file by the time. The folder is
made if need be, and what is made of it stays even when the file cannot be written. -/
def saveFile (editor : Editor) (files : Files) (folder : FilePath) (seconds : Number) :
    Files × Except SaveFault FilePath :=
  match files.makeFolders folder with
  | (files, some fault) => (files, .error (.file fault))
  | (files, none) =>
    match millisecondsOf seconds with
    | .error fault => (files, .error (.time fault))
    | .ok milliseconds =>
      let name := savedFileName (.str editor.settings.exportFileStem) (.int milliseconds)
      -- Without a text no file is begun.
      match name, savedText editor.document with
      | .ok name, .ok text =>
        let path := folder.join (.ofText name)
        match files.write path text.toUTF8 with
        | .error fault => (files, .error (.file fault))
        | .ok files => (files, .ok path)
      | .error reason, _ | .ok _, .error reason => (files, .error (.unwritable reason))

/-- The value in a text, none for a text that is no JSON. Only a whole number with too many digits
is a fault of its own. -/
def readValue (text : String) : Except ImportFault (Option Json) :=
  match Json.read text with
  | .ok value => .ok (some value)
  | .error (.malformed _ _ _ _) => .ok none
  | .error (.tooManyDigits digits) => .error (.source (.tooManyDigits digits))

/-- The value in a file, none for a file that cannot be read. -/
def readFile (files : Files) (path : FilePath) : Except ImportFault (Option Json) :=
  match files.read path with
  -- A path that is no path is not a matter of the file.
  | .error .holdsNull => .error (.file .holdsNull)
  | .error _ => .ok none
  | .ok content =>
    match Encoding.decodeFile content with
    | .error _ => .ok none
    | .ok text => readValue text

/-- Replaces the document by the one in a file, and tells whether it did. -/
def loadFile (editor : Editor) (files : Files) (path : FilePath) :
    Turn (Except ImportFault Bool) :=
  match readFile files path with
  | .error fault => editor.quietly (.error fault)
  | .ok none =>
    ⟨editor, editor.tell [.notice "Error" "Could not read the file." .warning], .ok false⟩
  | .ok (some value) => editor.importFrom (.value value)

end Editor

end Flowchart
