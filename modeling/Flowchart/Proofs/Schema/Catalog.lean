import Flowchart.Proofs.Repeated
import Flowchart.Schema.Catalog
import Flowchart.Validation

/-! What a catalog comes to after any number of registrations: the schemas that were registered,
without those that were replaced. Forms and checks look for the first schema of a type, so that they
see a catalog as they would see the registered schemas from the last one to the first. -/

namespace Flowchart

section Lookup

variable {schemas others : List Schema}

/-- The schema of a type that is a text is the first one with this type. -/
theorem schemaOf?_str (schemas : List Schema) (type : String) :
    schemaOf? schemas (.str type) = schemas.find? fun schema => schema.type == type := by
  -- Values that are texts are equal if the texts are.
  have same (schema : Schema) :
      (Json.str schema.type == Json.str type) = (schema.type == type) := by
    rw [Bool.eq_iff_iff, beq_iff_eq, beq_iff_eq, Json.str.injEq]
  simp only [schemaOf?, same]

/-- What is no text is the type of no schema. -/
theorem schemaOf?_eq_none {type : Json} (untyped : ∀ name, type ≠ .str name) :
    schemaOf? schemas type = none := by
  -- Schemas are of types that are texts.
  refine List.find?_eq_none.mpr fun schema _ same => ?_
  exact untyped schema.type (eq_of_beq same).symm

/-- Two lists of schemas that have the same schema for every name have the same one for every
type. -/
theorem schemaOf?_congr
    (same : ∀ name, schemaOf? schemas (.str name) = schemaOf? others (.str name)) (type : Json) :
    schemaOf? schemas type = schemaOf? others type := by
  -- A type that is no text finds nothing in either list.
  cases type with
  | str name => exact same name
  | _ => rw [schemaOf?_eq_none (by simp), schemaOf?_eq_none (by simp)]

/-- Two lists of schemas that forms and checks cannot tell apart. -/
structure SchemasAlike (schemas others : List Schema) : Prop where
  /-- The form of every type of step has the same sections. -/
  sections : ∀ type title, resolveSections schemas type title = resolveSections others type title
  /-- Of every document the same is found lacking. -/
  findings : ∀ (document : Document) (properties : List Property) (startType : Json)
    (singleStart : Bool), document.finding? schemas properties startType singleStart =
      document.finding? others properties startType singleStart

/-- Nothing tells a list of schemas from itself. -/
theorem SchemasAlike.of_eq (same : schemas = others) : SchemasAlike schemas others where
  -- Equal lists look alike in both uses.
  sections type title := by rw [same]
  findings document properties startType singleStart := by rw [same]

section Alike

variable (same : ∀ type, schemaOf? schemas type = schemaOf? others type)

include same

/-- What a node lacks depends on the schema of its type alone. -/
theorem Node.lack?_congr (node : Node) (properties : List Property) (startType : Json) :
    node.lack? schemas properties startType = node.lack? others properties startType := by
  simp only [lack?, Node.fieldLack?, same]

/-- What nodes lack depends on the schemas of their types alone. -/
theorem Document.nodeFinding?_congr (nodes : List Node) (properties : List Property)
    (startType : Json) : nodeFinding? schemas properties startType nodes =
      nodeFinding? others properties startType nodes := by
  -- Each node looks up the schema of its type, and nothing else of the list.
  induction nodes with
  | nil => rfl
  | cons node rest ih => rw [nodeFinding?, nodeFinding?, Node.lack?_congr same, ih]

/-- Lists with the same schema for every type are told apart by no form and no check. -/
theorem SchemasAlike.of_schemaOf? : SchemasAlike schemas others where
  -- Both uses of a list go through the lookup alone.
  sections type title := by rw [resolveSections, resolveSections, same]
  findings document properties startType singleStart := by
    rw [Document.finding?, Document.finding?, Document.nodeFinding?_congr same]

end Alike

end Lookup

namespace Catalog

/-- A catalog has for a type the schema that it has with this type. -/
theorem get?_eq (catalog : Catalog) (type : String) :
    catalog.get? type = catalog.schemas.find? fun schema => schema.type == type :=
  schemaOf?_str catalog.schemas type

/-- A catalog is told by its types, in their order, and the schema that it has for each. -/
theorem schemas_eq (catalog : Catalog) :
    catalog.schemas = catalog.types.filterMap catalog.get? := by
  -- The types of a catalog are the keys of its schemas, and these are distinct.
  have found : catalog.get? = fun type =>
      catalog.schemas.find? fun schema => schema.type == type := funext catalog.get?_eq
  rw [found]
  exact (filterMap_find?_of_nodup Schema.type catalog.distinct).symm

/-- A catalog has a schema for a type exactly if it stands among its schemas. -/
theorem get?_eq_some {catalog : Catalog} {type : String} {schema : Schema} :
    catalog.get? type = some schema ↔ schema ∈ catalog.schemas ∧ schema.type = type := by
  rw [get?_eq]
  -- The schema that is found carries the type, and no other schema of the catalog does.
  constructor
  · intro found
    have named := List.find?_some found
    exact ⟨List.mem_of_find?_eq_some found, eq_of_beq named⟩
  · rintro ⟨member, named⟩
    exact find?_eq_some_of_nodup Schema.type catalog.distinct member named

/-- A type that is registered comes last, unless it is there already. -/
theorem types_register (catalog : Catalog) (schema : Schema) :
    (catalog.register schema).types =
      if schema.type ∈ catalog.types then catalog.types else catalog.types ++ [schema.type] :=
  map_type_put catalog.schemas schema

/-- The schema that was put into a list is the one of its type, and those of other types stay. -/
theorem find?_put (schemas : List Schema) (schema : Schema) (type : String) :
    ((put schemas schema).find? fun held => held.type == type) =
      if schema.type = type then some schema else schemas.find? fun held => held.type == type := by
  induction schemas with
  | nil => by_cases named : schema.type = type <;> simp [put, named]
  | cons first rest ih =>
    by_cases replaced : first.type = schema.type
    · -- The schema stands in the place of the first one, which was of the same type.
      by_cases named : schema.type = type <;> simp [put, replaced, named]
    -- The first schema keeps its place, and the new one is put among the rest.
    · rw [put, if_neg (by simpa using replaced), List.find?_cons, List.find?_cons, ih]
      by_cases here : first.type = type
      · have other : schema.type ≠ type := fun named => replaced (here.trans named.symm)
        simp [here, other]
      · simp [beq_eq_false_iff_ne.mpr here]

/-- A schema that is registered is the one of its type, and those of other types stay. -/
theorem get?_register (catalog : Catalog) (schema : Schema) (type : String) :
    (catalog.register schema).get? type =
      if schema.type = type then some schema else catalog.get? type := by
  -- Registering puts the schema in, and lookups read the list.
  rw [get?_eq, get?_eq]
  exact find?_put catalog.schemas schema type

/-- A catalog knows of registered schemas their types in the order in which they came up, and the last
schema of each type. -/
structure Recalls (catalog : Catalog) (registered : List Schema) : Prop where
  types : catalog.types = (registered.map Schema.type).eraseDups
  get? : ∀ type, catalog.get? type = lastOf? Schema.type registered type

namespace Recalls

variable {catalog : Catalog} {registered : List Schema}

/-- An empty catalog knows of nothing. -/
theorem empty : Catalog.empty.Recalls [] := ⟨rfl, fun _ => rfl⟩

/-- A catalog knows of one schema more when it is registered. -/
theorem register (recalls : catalog.Recalls registered) (schema : Schema) :
    (catalog.register schema).Recalls (registered ++ [schema]) where
  -- The new schema is the last of its type, and its type is the last to come up.
  types := by
    rw [types_register, recalls.types, List.map_append, List.map_singleton, eraseDups_concat]
    simp only [List.mem_eraseDups]
  get? type := by rw [get?_register, recalls.get?, lastOf?_concat]

/-- A catalog knows of every schema that is registered in a run. -/
theorem run (recalls : catalog.Recalls registered) (later : List Schema) :
    (later.foldl Catalog.register catalog).Recalls (registered ++ later) := by
  -- One registration at a time, each recalled by the catalog after it.
  induction later generalizing catalog registered with
  | nil => simpa using recalls
  | cons schema rest ih => simpa using ih (recalls.register schema)

/-- The catalog of a list knows of all schemas in the list. -/
theorem ofList (schemas : List Schema) : (Catalog.ofList schemas).Recalls schemas :=
  empty.run schemas

/-- The schemas of a catalog are those that count among the registered ones. -/
theorem schemas (recalls : catalog.Recalls registered) :
    catalog.schemas = lastOfEach Schema.type registered := by
  rw [schemas_eq, recalls.types, lastOfEach, funext recalls.get?]

/-- Forms and checks see a catalog as they would see the registered schemas from the last one to the
first. -/
theorem alike_reverse (recalls : catalog.Recalls registered) :
    SchemasAlike catalog.schemas registered.reverse := by
  -- The last schema of a type is the first one from the end.
  refine .of_schemaOf? (schemaOf?_congr fun name => ?_)
  rw [schemaOf?_str registered.reverse]
  exact recalls.get? name

end Recalls

/-- A catalog condenses a list of schemas: it keeps the last schema of each type, in the place of the
first one. -/
structure Condenses (catalog : Catalog) (registered : List Schema) : Prop where
  /-- Each type is gone through once, in the order in which the types came up first. -/
  order : catalog.schemas.map Schema.type = (registered.map Schema.type).eraseDups
  /-- Each type is gone through with the schema that was registered last for it. -/
  latest : ∀ schema ∈ catalog.schemas, lastOf? Schema.type registered schema.type = some schema
  /-- The schemas that are gone through are those that count in the list. -/
  schemas : catalog.schemas = lastOfEach Schema.type registered
  size : catalog.size = (lastOfEach Schema.type registered).length
  types : catalog.types = (lastOfEach Schema.type registered).map Schema.type
  contains : ∀ type, catalog.contains type = true ↔ ∃ schema ∈ registered, schema.type = type
  get? : ∀ type, catalog.get? type = lastOf? Schema.type registered type
  /-- What is looked up is what is gone through. -/
  found : ∀ type schema, catalog.get? type = some schema ↔
    schema ∈ catalog.schemas ∧ schema.type = type
  /-- The form of a type has the sections that it has by the schemas that count. -/
  resolve : ∀ type title, catalog.resolve type title =
    resolveSections (lastOfEach Schema.type registered) type title
  /-- Forms and checks cannot tell the catalog from the schemas that count. -/
  alike : SchemasAlike catalog.schemas (lastOfEach Schema.type registered)
  /-- Nor can they tell it from the list gone through from its end. -/
  backwards : SchemasAlike catalog.schemas registered.reverse
  /-- A list without repeated types is kept as it is. -/
  plain : (registered.map Schema.type).Nodup →
    catalog.schemas = registered ∧ SchemasAlike catalog.schemas registered

/-- A catalog of a list of schemas condenses the list and everything that is registered later. -/
theorem ofList_condenses (schemas later : List Schema) :
    (later.foldl register (ofList schemas)).Condenses (schemas ++ later) := by
  -- Everything is told by what the catalog recalls of its registrations, and of that by the list of
  -- schemas.
  have recalls : (later.foldl register (ofList schemas)).Recalls (schemas ++ later) :=
    (Recalls.ofList schemas).run later
  have counted := recalls.schemas
  constructor
  case order => exact recalls.types
  case latest =>
    intro schema listed
    rw [← recalls.get?]
    exact get?_eq_some.mpr ⟨listed, rfl⟩
  case schemas => exact counted
  case size => rw [← counted]; rfl
  case types => rw [← counted]; rfl
  case contains =>
    intro type
    rw [Catalog.contains, recalls.types, List.contains_iff_mem, List.mem_eraseDups, List.mem_map]
  case get? => exact recalls.get?
  case found => exact fun type schema => get?_eq_some
  case resolve => exact fun type title => by rw [Catalog.resolve, counted]
  case alike => exact .of_eq counted
  case backwards => exact recalls.alike_reverse
  -- Registrations of different types leave nothing to condense.
  case plain =>
    intro distinct
    have kept := counted.trans (lastOfEach_eq_self Schema.type distinct)
    exact ⟨kept, .of_eq kept⟩

/-- A type that comes up again takes its last schema and keeps its place. -/
example : ([⟨"mail", some [], none⟩].foldl register
    (ofList [⟨"mail", none, none⟩, ⟨"wait", none, none⟩])).schemas =
      [⟨"mail", some [], none⟩, ⟨"wait", none, none⟩] := by decide

end Catalog

end Flowchart
