import Flowchart.Checked
import Flowchart.Schema

/-! Schemas and palette entries read from values and written as values. -/

namespace Flowchart

namespace Field

variable {V : Type} [Readable V]

/-- Members with values of another kind, written as JSON. Of several members with a key the last
value counts. -/
def writtenMembers (members : List (String × V)) : Except Unwritable Json.Members := do
  let members ← members.mapM fun (key, value) => do return (key, ← Readable.written value)
  return Json.Members.merge [] members

/-- A field from its parts, with options and a filter of any kind. -/
def assemble (key label : String) (type : FieldType) (required : Bool) (placeholder : String)
    (options : Option (List (List (String × V)))) (relationClass : Option String)
    (filter : List (String × V)) : Field :=
  let written : Except Unwritable (Option (List Json.Members) × Json.Members) := do
    -- The options are written before the filter.
    let options ← match options with
      | some options => some <$> options.mapM writtenMembers
      | none => .ok none
    return (options, ← writtenMembers filter)
  let (options, filter, unwritable) := match written with
    | .ok (options, filter) => (options, filter, none)
    | .error fault => (none, [], some fault)
  { key, label, type, required, placeholder, options, relationClass, filter, unwritable }

/-- A field from a value. Its key and class have a short and a long name each. -/
def shape : Shape V Field :=
  Shape.record "ToolField" fun get =>
    let textOr (name fallback : String) :=
      Shape.withDefault Shape.text fallback (Shape.field get name)
    Checked.build (assemble (V := V))
      |> Checked.part (Shape.required Shape.text (Shape.either get "property" "key"))
      |> Checked.part (textOr "label" "")
      |> Checked.part (Shape.withDefault
          (Shape.oneOf (FieldType.all.map fun type => (type.name, type))) .text
          (Shape.field get "type"))
      |> Checked.part (Shape.withDefault Shape.flag false (Shape.field get "required"))
      |> Checked.part (textOr "placeholder" "")
      |> Checked.part (Shape.withDefault (Shape.optional (Shape.listOf Shape.object)) none
          (Shape.field get "options"))
      |> Checked.part (Shape.withDefault (Shape.optional Shape.text) none
          (Shape.either get "class" "relation_class"))
      |> Checked.part (Shape.withDefault Shape.object [] (Shape.field get "filter"))

/-- A field as a value. Doubles that are not finite become null. -/
def toJson (field : Field) : Json :=
  .obj [("key", .str field.key), ("label", .str field.label), ("type", .str field.type.name),
    ("required", .bool field.required), ("placeholder", .str field.placeholder),
    ("options", match field.options with
      | some options => .arr (options.map fun members => .obj (Json.finiteMembers members))
      | none => .null),
    ("relation_class", .ofText? field.relationClass),
    ("filter", .obj (Json.finiteMembers field.filter))]

end Field

namespace Section

/-- A section from a value. -/
def shape {V : Type} [Readable V] : Shape V Section :=
  Shape.record "ToolSection" fun get =>
    Checked.build Section.mk
      |> Checked.part (Shape.required Shape.text (Shape.field get "title"))
      |> Checked.part
          (Shape.withDefault (Shape.listOf Field.shape) [] (Shape.field get "fields"))
      |> Checked.part (Shape.withDefault Shape.flag false (Shape.field get "expanded"))

/-- A section as a value. -/
def toJson (part : Section) : Json :=
  .obj [("title", .str part.title), ("fields", .arr (part.fields.map Field.toJson)),
    ("expanded", .bool part.expanded)]

end Section

namespace Schema

/-- A schema from a value. -/
def shape {V : Type} [Readable V] : Shape V Schema :=
  Shape.record "ToolSchema" fun get =>
    Checked.build Schema.mk
      |> Checked.part (Shape.required Shape.text (Shape.field get "type"))
      |> Checked.part (Shape.withDefault (Shape.optional (Shape.listOf Field.shape)) none
          (Shape.field get "fields"))
      |> Checked.part (Shape.withDefault (Shape.optional (Shape.listOf Section.shape)) none
          (Shape.field get "sections"))

/-- A schema as a value. -/
def toJson (schema : Schema) : Json :=
  let listOrNull {α : Type} (write : α → Json) : Option (List α) → Json
    | some items => .arr (items.map write)
    | none => .null
  .obj [("type", .str schema.type), ("fields", listOrNull Field.toJson schema.fields),
    ("sections", listOrNull Section.toJson schema.sections)]

/-- Why a schema cannot be written as a value, if it cannot. -/
def unwritable? (schema : Schema) : Option Unwritable :=
  let fields := schema.fields.getD [] ++ (schema.sections.getD []).flatMap Section.fields
  fields.findSome? Field.unwritable

/-- A schema as a value, if everything in it can be written. -/
def written (schema : Schema) : Except Unwritable Json :=
  match schema.unwritable? with
  | some fault => .error fault
  | none => .ok schema.toJson

end Schema

/-- The sections of the form of a step type under a title of any kind. Only a flat list of fields
needs the title, which has to be a text then. -/
def resolveUnder (schemas : List Schema) (type title : Json) : Checked (List Section) :=
  match title, schemaOf? schemas type with
  | .str title, _ => .ok (resolveSections schemas type title)
  | _, some ⟨_, some _, none⟩ => .within (.key "title") (.fault .notText)
  | _, some schema => .ok (schema.sections.getD [])
  | _, none => .ok []

namespace Tool

/-- A palette entry from a value. -/
def shape {V : Type} [Readable V] : Shape V Tool :=
  Shape.record "FlowTool" fun get =>
    let optionalText (name : String) :=
      Shape.withDefault (Shape.optional Shape.text) none (Shape.field get name)
    Checked.build Tool.mk
      |> Checked.part (Shape.required Shape.text (Shape.field get "id"))
      |> Checked.part (Shape.required Shape.text (Shape.field get "label"))
      |> Checked.part (optionalText "icon")
      |> Checked.part (optionalText "color")

/-- A palette entry as a value. -/
def toJson (tool : Tool) : Json :=
  .obj [("id", .str tool.id), ("label", .str tool.label), ("icon", .ofText? tool.icon),
    ("color", .ofText? tool.color)]

end Tool

end Flowchart
