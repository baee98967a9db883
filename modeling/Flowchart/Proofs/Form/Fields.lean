import Flowchart.Proofs.Completeness
import Flowchart.Proofs.Form.Step
import Flowchart.Schema.Catalog

/-! The fields of a step, as its form shows them and as its check goes through them. The two lay out
a schema each in its own way. The main statement says that they come to the same fields, so that a
form always lets the user fill in what the check asks for, and that this is enough. -/

namespace Flowchart

/-- The sections of a form hold the fields of its schema, in their order. -/
theorem Schema.fields_resolve (schema : Schema) (title : String) :
    (schema.resolve title).flatMap Section.fields = schema.allFields := by
  -- Sections come first, then a flat list, and a schema may have neither.
  unfold resolve allFields
  cases schema.sections with
  | some sections => rfl
  | none =>
    cases schema.fields with
    | some fields => simp
    | none => rfl

section Layout

variable {schemas : List Schema} {type : Json}

/-- A form with a schema shows the fields of the schema. -/
theorem fields_resolveSections {schema : Schema} (offered : schemaOf? schemas type = some schema)
    (title : String) :
    (resolveSections schemas type title).flatMap Section.fields = schema.allFields := by
  -- The sections divide the fields and leave none out.
  rw [resolveSections, offered]
  exact schema.fields_resolve title

/-- A form without a schema shows nothing. -/
theorem resolveSections_of_none (missing : schemaOf? schemas type = none) (title : String) :
    resolveSections schemas type title = [] := by
  rw [resolveSections, missing]

end Layout

/-- A value that fills in a field is there. -/
theorem Json.Members.get?_of_fillsIn {members : Json.Members} {key : String}
    (filled : (members.getOrNull key).FillsIn) :
    members.get? key = some (members.getOrNull key) := by
  unfold getOrNull at filled ⊢
  cases held : members.get? key with
  | some value => rfl
  | none =>
    -- Null fills in nothing.
    rw [held] at filled
    exact absurd rfl filled.1

/-- The check of a node asks for the required fields that the form of its type shows. -/
theorem Node.fieldLack?_iff_shown {schemas : List Schema} {node : Node} (title : String) :
    node.fieldLack? schemas = .ok none ↔
      ∀ field ∈ (resolveSections schemas node.type title).flatMap Section.fields,
        field.required = true → ∃ settings : Json.Members, node.config = .obj settings ∧
          (settings.getOrNull field.key).FillsIn := by
  rw [fieldLack?_eq_none]
  simp only [← schemaOf?_eq_some]
  cases offered : schemaOf? schemas node.type with
  | none =>
    -- Nothing is asked for and nothing is shown.
    rw [resolveSections_of_none offered]
    simp
  | some schema =>
    rw [fields_resolveSections offered]
    simp

namespace StepForm

/-- All required fields of a form are filled in in it. -/
def FilledIn (form : StepForm) : Prop :=
  ∀ field ∈ form.fields, field.required = true → (form.values.getOrNull field.key).FillsIn

section Saving

variable {form : StepForm} {schemas : List Schema} {document : Document} {current : Node}
  {settings : Json.Members} (distinct : (form.values.map Prod.fst).Nodup)

include distinct

/-- A value that fills in a field in a form fills it in in the node once the form is saved, whatever
the node held before. -/
theorem fillsIn_merge {key : String} (filled : (form.values.getOrNull key).FillsIn) :
    ((settings.merge form.values).getOrNull key).FillsIn := by
  -- A value that fills in a field was entered, so it stands in front of what was there.
  have entered := Json.Members.get?_of_fillsIn filled
  have merged : (settings.merge form.values).getOrNull key = form.values.getOrNull key := by
    rw [Json.Members.getOrNull, Json.Members.get?_merge distinct, entered]
    rfl
  rwa [merged]

/-- A form that is filled in leaves a node that lacks no field, if it shows the fields of the type
of the node. -/
theorem FilledIn.save (filled : form.FilledIn) {title : String}
    (shown : form.fields = (resolveSections schemas current.type title).flatMap Section.fields)
    (found : document.node? form.node = some current)
    (configured : current.config = .obj settings) :
    ∃ saved changed, form.save document = .ok (saved, true) ∧
      saved.node? form.node = some changed ∧ changed.fieldLack? schemas = .ok none := by
  refine ⟨_, form.written current settings, save_eq found configured,
    node?_written found settings, ?_⟩
  -- The node is of the type that it was, so the same fields are asked for.
  have type : (form.written current settings).type = current.type :=
    congrArg (fun frame => frame.2.1) (form.written_frame current settings)
  rw [Node.fieldLack?_iff_shown title, type, ← shown]
  exact fun field listed required => ⟨_, form.written_config current settings,
    fillsIn_merge distinct (filled field listed required)⟩

end Saving

/-- What a form shows is what the check asks for. For every list of schemas the form of a type shows
all fields of the first schema of the type, and without one it shows none; a form that is laid out
by a catalog shows the fields of the schema that the catalog has for the type. A step lacks no field
exactly if all required fields that its form shows are filled in. And whatever is changed in a form:
once the required fields that it shows are filled in in it, saving it in any document where its node
still stands leaves a node that lacks no field, whatever its settings held. -/
theorem shown_fields (schemas : List Schema) (title : String) :
    (∀ type schema, IsFirst (fun schema => type = .str schema.type) schemas schema →
      (resolveSections schemas type title).flatMap Section.fields = schema.allFields) ∧
    (∀ type, (∀ schema ∈ schemas, type ≠ .str schema.type) →
      resolveSections schemas type title = []) ∧
    (∀ (catalog : Catalog) (type : String),
      (catalog.resolve (.str type) title).flatMap Section.fields =
        ((catalog.get? type).map Schema.allFields).getD []) ∧
    ∀ (node : Node) (start : Field → Lookup),
      let opened := ofNode node (resolveSections schemas node.type title) start
      (node.fieldLack? schemas = .ok none ↔
        ∀ field ∈ opened.fields, field.required = true → ∃ settings : Json.Members,
          node.config = .obj settings ∧ (settings.getOrNull field.key).FillsIn) ∧
      ((opened.values.map Prod.fst).Nodup → ∀ changes : List FormChange, ∃ form : StepForm,
        changes.foldl Form.change (.step opened) = .step form ∧ form.fields = opened.fields ∧
        (form.FilledIn → ∀ (document : Document) (current : Node) (settings : Json.Members),
          document.node? node.id = some current → current.type = node.type →
          current.config = .obj settings → ∃ saved changed,
            form.save document = .ok (saved, true) ∧ saved.node? node.id = some changed ∧
              changed.fieldLack? schemas = .ok none)) := by
  refine ⟨fun type schema first => fields_resolveSections (schemaOf?_iff.mpr first) title,
    fun type apart => resolveSections_of_none ?_ title, fun catalog type => ?_,
    fun node start => ⟨Node.fieldLack?_iff_shown title, fun distinct changes => ?_⟩⟩
  -- No schema has the type, so none is found for it.
  · refine List.find?_eq_none.mpr fun schema listed same => ?_
    exact apart schema listed (eq_of_beq same).symm
  · rw [Catalog.resolve, Catalog.get?]
    -- A catalog resolves a type by its schema, and without a schema there are no fields.
    cases offered : schemaOf? catalog.schemas (.str type) with
    | none =>
      rw [resolveSections_of_none offered]
      rfl
    | some schema => exact fields_resolveSections offered title
  · -- The form that is saved shows the fields that the opened one showed, and the keys of its values
    -- are distinct still.
    obtain ⟨form, reached, continues⟩ :=
      run_continues changes (ofNode node (resolveSections schemas node.type title) start)
    refine ⟨form, reached, continues.fields,
      fun filled document current settings found same configured => ?_⟩
    have placed : form.node = node.id := continues.node
    have apart : (form.values.map Prod.fst).Nodup := by
      rw [continues.values]
      exact Json.Members.distinct_merge distinct _
    have shown : form.fields =
        (resolveSections schemas current.type title).flatMap Section.fields := by
      rw [continues.fields, same]
      rfl
    have saves := filled.save apart shown (placed ▸ found) configured
    rwa [placed] at saves

/-- A mail without a recipient. -/
def blankMail : Node :=
  { (default : Node) with
    id := .str "b"
    type := .str "mail"
    config := .obj [("to", .null), ("note", .str "kept")] }

/-- The form of the mail. -/
def mailForm : StepForm :=
  ofNode blankMail (resolveSections [Document.mailSchema] blankMail.type defaultSectionTitle)
    fun field => .start field false (.int 0) (.int 0)

/-- A mail lacks its recipient until it is entered and saved. -/
theorem mail_filledIn :
    blankMail.fieldLack? [Document.mailSchema] = .ok (some (.fieldValue "To")) ∧
      ∃ form : StepForm,
        [FormChange.enter none [("to", .str "host")]].foldl Form.change (.step mailForm) =
          .step form ∧
        ∃ saved changed,
          form.save { Document.empty with nodes := [blankMail] } = .ok (saved, true) ∧
          saved.node? (.str "b") = some changed ∧
            changed.fieldLack? [Document.mailSchema] = .ok none := by
  have found : Document.node? { Document.empty with nodes := [blankMail] } (.str "b") =
      some blankMail := by decide +kernel
  obtain ⟨-, -, -, each⟩ := shown_fields [Document.mailSchema] defaultSectionTitle
  obtain ⟨-, opened⟩ := each blankMail fun field => .start field false (.int 0) (.int 0)
  obtain ⟨form, reached, fields, saves⟩ :=
    opened (by decide) [.enter none [("to", .str "host")]]
  have filled : form.FilledIn := by
    obtain rfl := Form.step.inj reached
    -- The recipient is the only field.
    intro field listed _
    obtain rfl := List.mem_singleton.mp listed
    exact ⟨by decide, by decide, by decide⟩
  exact ⟨by decide +kernel, form, reached, saves filled _ blankMail _ found rfl rfl⟩

end StepForm

end Flowchart
