import Flowchart.Json

/-! Step types described by data: the fields of their edit forms, in sections or in a flat list. -/

namespace Flowchart

/-- The kinds of editors a field can have. -/
inductive FieldType where
  | text
  | number
  | select
  | boolean
  | textarea
  | date
  /-- A choice among options that a server looks up. -/
  | relation
deriving DecidableEq, Inhabited

namespace FieldType

/-- The name of a field type. -/
def name : FieldType → String
  | text => "text"
  | number => "number"
  | select => "select"
  | boolean => "boolean"
  | textarea => "textarea"
  | date => "date"
  | relation => "relation"

/-- Every field type, in the order in which choices are listed. -/
def all : List FieldType := [text, number, select, boolean, textarea, date, relation]

end FieldType

/-- One field of an edit form. -/
structure Field where
  key : String
  label : String
  type : FieldType
  required : Bool
  placeholder : String
  options : Option (List Json.Members)
  relationClass : Option String
  filter : Json.Members
  /-- Why the options and the filter are left empty, when they hold what JSON cannot say. -/
  unwritable : Option Unwritable
deriving DecidableEq, Inhabited

/-- The label of a field, or its key when it has none. -/
def Field.displayLabel (field : Field) : String :=
  if field.label = "" then field.key else field.label

/-- A titled group of fields that opens and closes on its own. -/
structure Section where
  title : String
  fields : List Field
  expanded : Bool
deriving DecidableEq, Inhabited

/-- The edit form of one step type: sections, or else a flat list of fields. -/
structure Schema where
  type : String
  fields : Option (List Field)
  sections : Option (List Section)
deriving DecidableEq, Inhabited

namespace Schema

/-- All fields in the order of the form. -/
def allFields (schema : Schema) : List Field :=
  match schema.sections with
  | some sections => sections.flatMap Section.fields
  | none => schema.fields.getD []

/-- The fields that must not be blank. -/
def requiredFields (schema : Schema) : List Field := schema.allFields.filter Field.required

/-- The sections of the form; a flat list of fields is one open section under the given title. -/
def resolve (schema : Schema) (title : String) : List Section :=
  match schema.sections, schema.fields with
  | some sections, _ => sections
  | none, some fields => [⟨title, fields, true⟩]
  | none, none => []

end Schema

/-- The first schema of a step type. Only a text is the type of a schema. -/
def schemaOf? (schemas : List Schema) (type : Json) : Option Schema :=
  schemas.find? fun schema => .str schema.type == type

/-- The sections of the form of a step type; a type without a schema has none. -/
def resolveSections (schemas : List Schema) (type : Json) (title : String) : List Section :=
  match schemaOf? schemas type with
  | some schema => schema.resolve title
  | none => []

/-- The title of the section made from a flat list of fields. -/
def defaultSectionTitle : String := "General"

/-- An entry of the palette that steps are dragged from. -/
structure Tool where
  id : String
  label : String
  icon : Option String
  color : Option String
deriving DecidableEq, Inhabited

end Flowchart
