import Flowchart.Settings
import Flowchart.Settings.Dotenv
import Flowchart.Text.Lowercase

/-! Settings from several sources: named values first, then the environment, then a file of
variables. -/

namespace Flowchart

namespace Settings

/-- What the names of variables start with. -/
def variableStem : String := "flowbuilder_"

/-- The names of all settings. -/
def names : List String := ((toJson default).members?.getD []).map Prod.fst

/-- The settings given by variables. Names are compared in lower case, and of several bindings the
last one counts. A name without a value leaves the setting alone. -/
def ofVariables (bindings : Dotenv.Bindings) : Json.Members :=
  -- Names that differ in case only are one name.
  let lowered := bindings.map fun binding => (Text.lowercase binding.1, binding.2)
  names.filterMap fun name =>
    ((Dotenv.valueOf lowered (variableStem ++ name)).bind id).map fun value => (name, .str value)

/-- Settings from named values, an environment and the text of a file of variables. -/
def load (named : Json.Members) (environment : List (String × String)) (file : Option String) :
    Checked Settings :=
  -- Each source is laid over the one after it.
  let fromFile := (file.map (Dotenv.read environment)).getD []
  let fromEnvironment := environment.map fun binding => (binding.1, some binding.2)
  ofMembers (((ofVariables fromFile).merge (ofVariables fromEnvironment)).merge named)

end Settings

end Flowchart
