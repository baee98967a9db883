import Flowchart.Document.Saved
import Flowchart.Json.Writer
import Flowchart.Logic
import Flowchart.Settings
import Flowchart.Validation
import Flowchart.Yaml.Writer

/-! Exporting a document: its logic, given out only when the document is complete. -/

namespace Flowchart

/-- The texts that logic can be exported as. -/
inductive ExportFormat where
  | json
  | yaml
deriving DecidableEq

namespace ExportFormat

/-- The name of a format. -/
def name : ExportFormat → String
  | json => "json"
  | yaml => "yaml"

/-- Every format. -/
def all : List ExportFormat := [json, yaml]

/-- The format of a name. -/
def ofName? (name : String) : Option ExportFormat := all.find? fun format => format.name == name

/-- A value as a text of the format. -/
def write (format : ExportFormat) (value : Json) : Except Unwritable String :=
  match format with
  | json => value.writtenBy Json.indented
  | yaml => value.writtenBy Yaml.render

end ExportFormat

/-- The wording of a refusal to export to a format. -/
def unsupportedFormatMessage (format : String) : String := "Unsupported export format: " ++ format

/-- What a document is held against before it is exported. -/
structure Compiler where
  schemas : List Schema
  properties : List Property
  settings : Settings

/-- The name of a file for a saved document: a stem and the time in milliseconds. -/
def savedFileName (stem milliseconds : Json) : Except Unwritable String := do
  return (← stem.display) ++ "-" ++ (← milliseconds.display) ++ ".json"

/-- A time in seconds as whole milliseconds. -/
def millisecondsOf (seconds : Number) : Except Number.Fault Int := seconds.timesThousand.whole

namespace Compiler

/-- The first thing a document lacks. -/
def finding? (compiler : Compiler) (document : Document) :
    Except DocumentFault (Option Finding) :=
  document.finding? compiler.schemas compiler.properties (.str compiler.settings.startNodeType)
    compiler.settings.strictStartNode

/-- The logic of a document that lacks nothing. -/
def logic? (compiler : Compiler) (document : Document) : Except DocumentFault (Option Logic) := do
  -- Nothing incomplete is given out in any form.
  match ← compiler.finding? document with
  | some _ => return none
  | none => return some (← document.compile)

/-- Logic together with the document it came from, for a later import. -/
def bundle (document : Document) (logic : Logic) : Json :=
  .obj [("logic", logic.toJson), ("graph", document.toJson)]

/-- The logic and the graph of a document that lacks nothing. -/
def data? (compiler : Compiler) (document : Document) : Except DocumentFault (Option Json) := do
  return (← compiler.logic? document).map (bundle document)

/-- What is written of a document that lacks nothing. YAML holds the logic only. -/
def content? (compiler : Compiler) (document : Document) :
    ExportFormat → Except DocumentFault (Option Json)
  | .json => compiler.data? document
  | .yaml => do return (← compiler.logic? document).map Logic.toJson

/-- A document that lacks nothing as a text. -/
def text? (compiler : Compiler) (document : Document) (format : ExportFormat) :
    Except DocumentFault (Option String) := do
  match ← compiler.content? document format with
  | none => return none
  | some content => return some (← (format.write content).mapError .unwritable)

end Compiler

end Flowchart
