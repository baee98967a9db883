import Flowchart.Checked

/-! The settings of an editing session, read from named values. -/

namespace Flowchart

/-- What can be adjusted about documents, forms and lookups. -/
structure Settings where
  appName : String
  exportFileStem : String
  defaultSectionTitle : String
  startNodeType : String
  /-- Zero or several starting steps fail validation instead of the first being taken. -/
  strictStartNode : Bool
  allowSelfLoops : Bool
  nodeWidth : Float
  nodeHeight : Float
  randomOrigin : Float
  randomSpread : Float
  relationDebounceSeconds : Float
  relationScrollThreshold : Float
  relationBaseUrl : Option String
  relationTimeout : Float
  logLevel : String
deriving DecidableEq

namespace Settings

/-- The settings when nothing is given. -/
def default : Settings where
  appName := "Flow Builder"
  exportFileStem := "flow"
  defaultSectionTitle := "General"
  startNodeType := "start"
  strictStartNode := false
  allowSelfLoops := true
  nodeWidth := 160.0
  nodeHeight := 70.0
  randomOrigin := 100.0
  randomSpread := 200.0
  relationDebounceSeconds := 0.5
  relationScrollThreshold := 20.0
  relationBaseUrl := none
  relationTimeout := 10.0
  logLevel := "WARNING"

instance : Inhabited Settings := ⟨default⟩

/-- Settings from named values; a name that is absent keeps its default. -/
def ofMembers (members : Json.Members) : Checked Settings :=
  let field (name : String) := Shape.field members.get? name
  let text name (fallback : String) := Shape.withDefault Shape.text fallback (field name)
  let flag name (fallback : Bool) := Shape.withDefault Shape.flag fallback (field name)
  let double name (fallback : Float) := Shape.withDefault Shape.double fallback (field name)
  Checked.build Settings.mk
    |> Checked.part (text "app_name" default.appName)
    |> Checked.part (text "export_prefix" default.exportFileStem)
    |> Checked.part (text "default_section_title" default.defaultSectionTitle)
    |> Checked.part (text "start_node_type" default.startNodeType)
    |> Checked.part (flag "strict_start_node" default.strictStartNode)
    |> Checked.part (flag "allow_self_loops" default.allowSelfLoops)
    |> Checked.part (double "node_width" default.nodeWidth)
    |> Checked.part (double "node_height" default.nodeHeight)
    |> Checked.part (double "random_origin" default.randomOrigin)
    |> Checked.part (double "random_spread" default.randomSpread)
    |> Checked.part (double "relation_debounce_seconds" default.relationDebounceSeconds)
    |> Checked.part (double "relation_scroll_threshold" default.relationScrollThreshold)
    |> Checked.part (Shape.withDefault (Shape.optional Shape.text) default.relationBaseUrl
        (field "relation_base_url"))
    |> Checked.part (double "relation_timeout" default.relationTimeout)
    |> Checked.part (text "log_level" default.logLevel)

/-- Settings as a value, by name. -/
def toJson (settings : Settings) : Json :=
  .obj [("app_name", .str settings.appName),
    ("export_prefix", .str settings.exportFileStem),
    ("default_section_title", .str settings.defaultSectionTitle),
    ("start_node_type", .str settings.startNodeType),
    ("strict_start_node", .bool settings.strictStartNode),
    ("allow_self_loops", .bool settings.allowSelfLoops),
    ("node_width", .float settings.nodeWidth),
    ("node_height", .float settings.nodeHeight),
    ("random_origin", .float settings.randomOrigin),
    ("random_spread", .float settings.randomSpread),
    ("relation_debounce_seconds", .float settings.relationDebounceSeconds),
    ("relation_scroll_threshold", .float settings.relationScrollThreshold),
    ("relation_base_url", .ofText? settings.relationBaseUrl),
    ("relation_timeout", .float settings.relationTimeout),
    ("log_level", .str settings.logLevel)]

end Settings

end Flowchart
