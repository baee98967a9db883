import Flowchart.Command
import Flowchart.DataFile
import Flowchart.Import
import Flowchart.LogLevel
import Flowchart.Settings.Environment
import Flowchart.Text.Plain

/-! Running a command line on files and an environment. -/

namespace Flowchart

/-- What a command line is run on. -/
structure Surroundings where
  files : Files
  environment : List (String × String)

/-- What a run leaves: what it prints, and the files as they are then. -/
structure Report where
  output : String
  files : Files

/-- Why a run does not do what was asked for. -/
inductive CommandError where
  | usage (error : UsageError)
  /-- A file holds no document. -/
  | document (path : FilePath) (error : ImportError)
  /-- A document lacks something; the node that lacks it is named if there is one. -/
  | incomplete (node : Option Node) (finding : Finding)
  /-- A document lacks something, and so it has no logic to give out. -/
  | blocked (finding : Finding)
  | noSchema (type : String)
  | data (fault : DataFault)
  /-- A document that was read cannot be made into logic. -/
  | unfit (fault : DocumentFault)
  | settings (issues : List Issue)
  | level (name : String) (fault : LogLevel.Fault)

namespace CommandError

/-- An error in one line. -/
def title : CommandError → String
  | usage error => "Error: " ++ error.message
  | document path error => "❌ Invalid flow document " ++ path.toText ++ ": " ++ error.message
  | incomplete node finding =>
    -- A finding that is not about one node has no place to show.
    let place := match node with
      | some node => " [" ++ node.type.bare ++ " " ++ node.id.bare ++ "]"
      | none => ""
    "❌ Validation failed" ++ place ++ ": " ++ finding.lack.message
  | blocked finding =>
    "❌ Export blocked at step " ++ (finding.node.getD .null).bare ++ ": " ++
      finding.lack.message
  | noSchema type => "📭 No schema for node type '" ++ type ++ "'"
  | data fault => "Error: " ++ fault.message
  | unfit _ => "Error: Unusable document"
  | settings _ => "Error: Invalid settings"
  | level name fault => "Error: " ++ fault.message ++ " (" ++ Text.quoted name ++ ")"

/-- What is listed after the title. -/
def details : CommandError → List Issue
  | document _ (.malformed issues) => issues
  | settings issues => issues
  | _ => []

/-- An error as it is printed. -/
def message (error : CommandError) : String :=
  Text.plain (String.join ((error.title :: error.details.map Issue.line).map (· ++ "\n")))

/-- Whether an error is printed like an answer. -/
def isAnswer : CommandError → Bool
  | noSchema _ => true
  | _ => false

/-- The code that the program ends with. -/
def exitCode : CommandError → Nat
  | usage .nullInPath => 1
  | usage _ => 2
  | _ => 1

end CommandError

/-- The version of the program. -/
def version : String := "0.1.0"

/-- The name of the program. -/
def programName : String := "cli"

namespace Surroundings

/-- A report on a run that changes no file. -/
def report (surroundings : Surroundings) (lines : List String) : Report :=
  ⟨Text.plain (String.join (lines.map (· ++ "\n"))), surroundings.files⟩

/-- The text of the file of variables, if there is one. -/
def variables? (surroundings : Surroundings) : Except CommandError (Option String) :=
  match surroundings.files.read (.ofText ".env") with
  | .error _ => .ok none
  | .ok content =>
    match Encoding.decodeFile content with
    | .ok text => .ok (some text)
    | .error fault => .error (.data (.notUnicode fault))

/-- The settings from the environment and the file of variables. -/
def settings (surroundings : Surroundings) : Except CommandError Settings := do
  let file ← surroundings.variables?
  (Settings.load [] surroundings.environment file).mapError .settings

/-- Checks that the settings name a level of the log. -/
def checkLevel (surroundings : Surroundings) : Except CommandError Unit := do
  let settings ← surroundings.settings
  match LogLevel.ofName settings.logLevel with
  | .ok _ => return
  | .error fault => .error (.level settings.logLevel fault)

/-- What a document is held against: schemas first, then properties and settings are read. -/
def compiler (surroundings : Surroundings) (sources : Sources) :
    Except CommandError Compiler := do
  -- Faults come in this order, whichever files are bad.
  let files := surroundings.files
  let schemas ← match sources.schemas with
    | some path => ((files.readCatalog path).map Catalog.schemas).mapError CommandError.data
    | none => .ok []
  let properties ← match sources.properties with
    | some path => (files.readProperties path).mapError CommandError.data
    | none => .ok []
  let settings ← surroundings.settings
  return { schemas, properties, settings }

/-- The document in a file. -/
def document (surroundings : Surroundings) (path : FilePath) : Except CommandError Document := do
  let text ← (surroundings.files.readText path).mapError .data
  (ImportSource.text text).document.mapError (.document path)

/-- Tells whether a document is complete. -/
def validate (surroundings : Surroundings) (path : FilePath) (sources : Sources) :
    Except CommandError Report := do
  let compiler ← surroundings.compiler sources
  let document ← surroundings.document path
  -- The same gate decides here and for compiling.
  match ← (compiler.finding? document).mapError .unfit with
  | some finding => .error (.incomplete (finding.node.bind document.node?) finding)
  | none =>
    let count := toString document.nodes.length
    return surroundings.report ["✅ " ++ path.toText ++ " is valid (" ++ count ++ " steps)"]

/-- What is written of a document and its logic. Only JSON can hold the document beside its logic. -/
def compiled (document : Document) (logic : Logic) (format : ExportFormat) (withGraph : Bool) :
    Json :=
  match format with
  | .yaml => logic.toJson
  | .json => if withGraph then Compiler.bundle document logic else logic.toJson

/-- Compiles a document that lacks nothing, and prints the text or writes it to a file. -/
def compile (surroundings : Surroundings) (path : FilePath) (sources : Sources)
    (format : ExportFormat) (withGraph : Bool) (target : Option FilePath) :
    Except CommandError Report := do
  let compiler ← surroundings.compiler sources
  let document ← surroundings.document path
  match ← (compiler.finding? document).mapError .unfit with
  | some finding => .error (.blocked finding)
  | none =>
    -- Nothing is written before the document is known to lack nothing.
    let logic ← document.compile.mapError .unfit
    let text ← (format.write (compiled document logic format withGraph)).mapError fun reason =>
      CommandError.unfit (.unwritable reason)
    match target with
    | none => return surroundings.report [text]
    | some target =>
      let files ← (surroundings.files.write target text.toUTF8).mapError fun fault =>
        CommandError.data (.file fault)
      return { surroundings.report ["✅ Compiled logic written to " ++ target.toText] with files }

/-- Each type of nodes with their number, in order. -/
def typeCounts (document : Document) : List (String × Nat) :=
  -- Types are told apart by case and sorted by code points.
  let types := document.nodes.map fun node => node.type.bare
  (types.eraseDups.mergeSort fun a b => a ≤ b).map fun type => (type, types.count type)

/-- Where a document starts, given its roots. -/
def startLine (roots : List Node) : String :=
  match roots with
  | [] => "⚠️  No starting step (every step has an incoming connection)"
  | [root] => "   Start: " ++ (if root.text.isTruthy then root.text else root.id).bare
  | roots =>
    "⚠️  " ++ toString roots.length ++ " possible starting steps: " ++
      String.intercalate ", " (roots.map fun root => root.id.bare)

/-- Describes a document. -/
def inspect (surroundings : Surroundings) (path : FilePath) : Except CommandError Report := do
  let _ ← surroundings.settings
  let document ← surroundings.document path
  let roots ← document.roots.mapError .unfit
  let counts := (typeCounts document).map fun (type, count) =>
    "   - " ++ type ++ ": " ++ toString count
  return surroundings.report
    (["📊 " ++ path.toText, "   Steps: " ++ toString document.nodes.length,
      "   Connections: " ++ toString document.edges.length] ++ counts ++ [startLine roots])

/-- A section of a form with its fields. -/
def sectionLines (part : Section) : List String :=
  let field (field : Field) : String :=
    let star := if field.required then " *" else ""
    "    " ++ field.key ++ " (" ++ field.type.name ++ ")" ++ star ++ " - " ++ field.displayLabel
  ((if part.expanded then "▼ " else "▶ ") ++ part.title) :: part.fields.map field

/-- Shows the edit form of a step type. -/
def sections (surroundings : Surroundings) (type : String) (schemas : FilePath) :
    Except CommandError Report := do
  -- The file is read first, so its faults come before those of the settings.
  let catalog ← (surroundings.files.readCatalog schemas).mapError .data
  let settings ← surroundings.settings
  match catalog.resolve (.str type) settings.defaultSectionTitle with
  | [] => .error (.noSchema type)
  | sections => return surroundings.report (sections.flatMap sectionLines)

/-- Does what a command asks for. -/
def perform (surroundings : Surroundings) : Command → Except CommandError Report
  | .validate path sources => surroundings.validate path sources
  | .compile path sources format withGraph target =>
    surroundings.compile path sources format withGraph target
  | .inspect path => surroundings.inspect path
  | .sections type schemas => surroundings.sections type schemas
  | .operators type =>
    .ok (surroundings.report (type.operators.map fun operator =>
      operator.id ++ "\t" ++ operator.label))
  | .normalize types =>
    .ok (surroundings.report (types.map fun type =>
      type ++ " -> " ++ (PropertyType.ofForeign type).name))

/-- A page as a report. -/
def shown (surroundings : Surroundings) : InfoPage → Report
  | .help usage => surroundings.report ["Usage: " ++ usage]
  | .version => surroundings.report [programName ++ ", version " ++ version]

/-- The switch that asks for more of the log. -/
def verboseSwitch : Switch := ⟨"verbose", some 'v', none, false⟩

/-- Runs a command of a topic. -/
def runTopic (surroundings : Surroundings) (topic : Topic) (words : List String) :
    Except CommandError Report := do
  let path := programName ++ " " ++ topic.name
  let verbs := topic.verbs.map fun verb => (verb.name, verb)
  match ← (pick [] path verbs words).mapError .usage with
  | .page page => return surroundings.shown page
  | .member verb given =>
    let path := path ++ " " ++ verb.name
    match ← (verb.grammar.read path surroundings.files.hasText given.words).mapError .usage with
    | .inl page => return surroundings.shown page
    | .inr given => surroundings.perform (verb.command given)

/-- Runs a command line. The settings are looked at first, unless the whole log is asked for. -/
def run (surroundings : Surroundings) (words : List String) : Except CommandError Report := do
  let topics := Topic.all.map fun topic => (topic.name, topic)
  match ← (pick [versionSwitch, verboseSwitch] programName topics words).mapError .usage with
  | .page page => return surroundings.shown page
  | .member topic given =>
    if !given.has verboseSwitch.name then surroundings.checkLevel
    surroundings.runTopic topic given.words

end Surroundings

end Flowchart
