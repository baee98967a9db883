import Flowchart.Command.Grammar
import Flowchart.Export
import Flowchart.Files

/-! The commands of the program, and the words that stand for them. -/

namespace Flowchart

/-- The files that a document is held against. -/
structure Sources where
  schemas : Option FilePath
  properties : Option FilePath
deriving DecidableEq

/-- Something the program can be asked to do. -/
inductive Command where
  /-- Tells whether a document is complete. -/
  | validate (document : FilePath) (sources : Sources)
  /-- Writes the logic of a document, in one format, with the document itself if asked for. -/
  | compile (document : FilePath) (sources : Sources) (format : ExportFormat) (withGraph : Bool)
      (target : Option FilePath)
  /-- Describes what a document consists of. -/
  | inspect (document : FilePath)
  /-- Shows the edit form of a step type. -/
  | sections (type : String) (schemas : FilePath)
  /-- Lists the comparisons with a type of properties. -/
  | operators (type : PropertyType)
  /-- Shows what type each foreign type stands for. -/
  | normalize (types : List String)
deriving DecidableEq

/-- The word for each command. -/
inductive Verb where
  | validate
  | compile
  | inspect
  | sections
  | operators
  | normalize
deriving DecidableEq

/-- What a group of commands is about. -/
inductive Topic where
  | workflow
  | schema
deriving DecidableEq

namespace Topic

/-- The name of a topic. -/
def name : Topic → String
  | workflow => "workflow"
  | schema => "schema"

/-- Every topic. -/
def all : List Topic := [workflow, schema]

/-- The commands of a topic. -/
def verbs : Topic → List Verb
  | workflow => [.validate, .compile, .inspect]
  | schema => [.sections, .operators, .normalize]

end Topic

namespace Verb

/-- The name of a command. -/
def name : Verb → String
  | validate => "validate"
  | compile => "compile"
  | inspect => "inspect"
  | sections => "sections"
  | operators => "operators"
  | normalize => "normalize"

/-- The switch for the file of schemas. -/
def schemasSwitch : Switch := ⟨"schemas", some 's', some .existingPath, false⟩

/-- The switch for the file of properties. -/
def propertiesSwitch : Switch := ⟨"properties", some 'p', some .existingPath, false⟩

/-- The switch for the file that is written. -/
def outputSwitch : Switch := ⟨"output", some 'o', some .path, false⟩

/-- The switch for the format that is written. -/
def formatSwitch : Switch :=
  ⟨"format", some 'f', some (.oneOf (ExportFormat.all.map ExportFormat.name)), false⟩

/-- The switch that adds the document to what is written. -/
def graphSwitch : Switch := ⟨"with-graph", none, none, false⟩

/-- The slot for the file of a document. -/
def documentSlot : Slot := ⟨"DOCUMENT_FILE", .existingPath, false⟩

/-- The names of the types of properties. -/
def typeNames : List String := PropertyType.all.map PropertyType.name

/-- The slot for the name of a type of properties, which shows the choices. -/
def typeSlot : Slot :=
  ⟨"\x7b" ++ String.intercalate "|" typeNames ++ "\x7d", .oneOf typeNames, false⟩

/-- The words that each command understands. -/
def grammar : Verb → Grammar
  | validate => ⟨[schemasSwitch, propertiesSwitch], documentSlot⟩
  | compile =>
    ⟨[outputSwitch, formatSwitch, graphSwitch, schemasSwitch, propertiesSwitch], documentSlot⟩
  | inspect => ⟨[], documentSlot⟩
  | sections =>
    ⟨[{ schemasSwitch with isRequired := true }], ⟨"NODE_TYPE", .anything, false⟩⟩
  | operators => ⟨[], typeSlot⟩
  | normalize => ⟨[], ⟨"FOREIGN_TYPES...", .anything, true⟩⟩

/-- The path after a switch. -/
def path? (given : Given) (switch : Switch) : Option FilePath :=
  (given.value? switch.name).map FilePath.ofText

/-- The files that a document is to be held against. -/
def sourcesOf (given : Given) : Sources :=
  ⟨path? given schemasSwitch, path? given propertiesSwitch⟩

/-- The command for what the words give, which keeps to the grammar. -/
def command (verb : Verb) (given : Given) : Command :=
  -- The grammar sees to it that there is a word.
  let word := given.words.headD ""
  match verb with
  | validate => .validate (.ofText word) (sourcesOf given)
  | compile =>
    let format := (given.value? formatSwitch.name).bind ExportFormat.ofName?
    .compile (.ofText word) (sourcesOf given) (format.getD .json) (given.has graphSwitch.name)
      (path? given outputSwitch)
  | inspect => .inspect (.ofText word)
  | sections => .sections word ((path? given schemasSwitch).getD default)
  | operators => .operators ((PropertyType.ofName? word).getD default)
  | normalize => .normalize given.words

end Verb

end Flowchart
