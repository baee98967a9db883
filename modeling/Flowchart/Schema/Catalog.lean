import Flowchart.Schema.Saved
import Flowchart.Text.Lowercase

/-! Catalogs of schemas: one schema to a step type, in the order in which the types came up. -/

namespace Flowchart

/-- Schemas with a type each of their own. -/
structure Catalog where
  schemas : List Schema
  distinct : (schemas.map Schema.type).Nodup

namespace Catalog

/-- A catalog without schemas. -/
def empty : Catalog := ⟨[], List.nodup_nil⟩

instance : Inhabited Catalog := ⟨empty⟩

/-- Puts a schema in the place of the first one of its type, or else at the end. -/
def put : List Schema → Schema → List Schema
  | [], schema => [schema]
  | first :: rest, schema =>
    if first.type == schema.type then schema :: rest else first :: put rest schema

/-- A type that is there already keeps the types as they are; a fresh one comes last. -/
theorem map_type_put (schemas : List Schema) (schema : Schema) :
    (put schemas schema).map Schema.type =
      if schema.type ∈ schemas.map Schema.type then schemas.map Schema.type
      else schemas.map Schema.type ++ [schema.type] := by
  -- The walk stops at the first schema of the type, or else adds one after the last.
  induction schemas with
  | nil => simp [put]
  | cons first rest ih =>
    by_cases same : first.type = schema.type
    · simp [put, same]
    · have other : ¬ schema.type = first.type := fun h => same h.symm
      -- A first schema of another type stays, so the rest decides.
      by_cases known : schema.type ∈ rest.map Schema.type
      · simp [put, same, known, ih]
      · simp only [List.mem_map, not_exists, not_and] at known
        simp [put, same, other, ih]
        grind

/-- Putting a schema keeps the types distinct. -/
theorem nodup_put {schemas : List Schema} (distinct : (schemas.map Schema.type).Nodup)
    (schema : Schema) : ((put schemas schema).map Schema.type).Nodup := by
  -- Only a type that was not there is added.
  rw [map_type_put]
  split
  · exact distinct
  · next fresh =>
    rw [List.nodup_append]
    refine ⟨distinct, by simp, ?_⟩
    intro type known other single
    simp only [List.mem_singleton] at single
    subst single
    exact fun same => fresh (same ▸ known)

/-- Adds a schema; one of the same type gives way to it. -/
def register (catalog : Catalog) (schema : Schema) : Catalog :=
  ⟨put catalog.schemas schema, nodup_put catalog.distinct schema⟩

/-- The catalog of a list of schemas, each registered in turn. -/
def ofList (schemas : List Schema) : Catalog := schemas.foldl register empty

/-- The schema of a type. -/
def get? (catalog : Catalog) (type : String) : Option Schema :=
  schemaOf? catalog.schemas (.str type)

/-- The step types, in order. -/
def types (catalog : Catalog) : List String := catalog.schemas.map Schema.type

/-- Whether a type has a schema. -/
def contains (catalog : Catalog) (type : String) : Bool := catalog.types.contains type

/-- How many types have a schema. -/
def size (catalog : Catalog) : Nat := catalog.schemas.length

/-- The sections of the form of a step type. -/
def resolve (catalog : Catalog) (type : Json) (title : String) : List Section :=
  resolveSections catalog.schemas type title

/-- The schemas with a text in their type or in the label of one of their fields, letter case
aside. -/
def search (catalog : Catalog) (query : String) : List Schema :=
  let query := Text.lowercase query
  let found (text : String) := Text.contains (Text.lowercase text) query
  catalog.schemas.filter fun schema =>
    found schema.type || schema.allFields.any fun field => found field.displayLabel

end Catalog

end Flowchart
