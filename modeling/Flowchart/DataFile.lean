import Flowchart.Files
import Flowchart.Json.Reader
import Flowchart.Property
import Flowchart.Schema.Catalog
import Flowchart.Text.Encoding
import Flowchart.Yaml.Reader

/-! Files of schemas and of properties, written as JSON or, if their names say so, as YAML. -/

namespace Flowchart

/-- Why a file gives no data. -/
inductive DataFault where
  | file (fault : FileFault)
  | notUnicode (fault : Encoding.Fault)
  | notJson (error : Json.ReadError)
  | notYaml (fault : Yaml.Fault)
  /-- What it holds cannot be listed. -/
  | notList
  | notSchema (issues : List Issue)
  | notProperty (fault : Property.Fault)
deriving DecidableEq

/-- The wording of a fault. -/
def DataFault.message : DataFault → String
  | .file fault => fault.message
  | .notUnicode fault => fault.message
  | .notJson error => error.message
  | .notYaml fault => fault.message
  | .notList => "Not a list"
  | .notSchema issues => describeIssues issues
  | .notProperty fault => fault.message

namespace Files

/-- The text of a file. -/
def readText (files : Files) (path : FilePath) : Except DataFault String := do
  let content ← (files.read path).mapError .file
  (Encoding.decodeFile content).mapError .notUnicode

/-- Something made from the value in a file, of whichever kind the value is. -/
def readData {α : Type} (files : Files) (path : FilePath)
    (ofYaml : Yaml.Reading → Except DataFault α) (ofJson : Json → Except DataFault α) :
    Except DataFault α := do
  let text ← files.readText path
  if path.isYaml then ofYaml (← (Yaml.read text).mapError .notYaml)
  else ofJson (← (Json.read text).mapError .notJson)

end Files

/-- The items in a value: of the value itself, or of what an object holds under a key. An absent
value has none. -/
def itemsOf {V : Type} [Readable V] (key : String) (value : V) : Except DataFault (List V) :=
  let listed (value : V) : Except DataFault (List V) :=
    if Readable.isTruthy value then
      match Readable.items? value with
      | some items => .ok items
      | none => .error .notList
    else .ok []
  -- Only an object is looked into; anything else is taken as the list itself.
  match Readable.view value with
  | .object get _ =>
    match get key with
    | some value => listed value
    | none => .ok []
  | _ => listed value

/-- The catalog of the schemas in a value. -/
def catalogOf {V : Type} [Readable V] (value : V) : Except DataFault Catalog := do
  let schemas ← (← itemsOf "schemas" value).mapM fun item =>
    (Schema.shape item).mapError DataFault.notSchema
  return .ofList schemas

/-- The properties in a value. -/
def propertiesOf {V : Type} [Readable V] (value : V) : Except DataFault (List Property) := do
  (Property.normalize (← itemsOf "properties" value)).mapError .notProperty

namespace Files

/-- The catalog of the schemas in a file. -/
def readCatalog (files : Files) (path : FilePath) : Except DataFault Catalog :=
  files.readData path catalogOf catalogOf

/-- The properties in a file. -/
def readProperties (files : Files) (path : FilePath) : Except DataFault (List Property) :=
  files.readData path propertiesOf propertiesOf

end Files

end Flowchart
