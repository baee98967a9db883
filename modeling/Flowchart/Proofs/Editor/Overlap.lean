import Flowchart.Proofs.Editor.Forms

/-! Two writers on the settings of one node: a form that is open on it, and everything else that is
done in the session meanwhile. A form is saved as a whole, so the last save counts for every key
that the form holds a value for. The main statement says which value each key has in the end, and
when nothing of what was done meanwhile is undone. -/

namespace Flowchart

/-- The settings of the node under an id, if it is there and they are an object. -/
def Document.settings? (document : Document) (id : Json) : Option Json.Members :=
  (document.node? id).bind fun node => node.config.members?

/-- The node under an id is there, and its settings are an object. -/
def Workspace.Stands (id : Json) (space : Workspace) : Prop :=
  ∃ settings, space.document.settings? id = some settings

/-- Operations that leave the node under an id in the document. -/
def Operation.Spares (id : Json) : Operation → Prop
  | .removeNode removed => id.isSame removed = false
  | .clear | .replace _ => False
  | _ => True

/-- Actions that leave the node under an id in the document. -/
def EditorAction.Spares (id : Json) : EditorAction → Prop
  | .removeNode removed => id.isSame removed = false
  | .clear _ | .importFrom _ | .loadFile _ _ => False
  | _ => True

/-- What the settings of a node come to when a form is saved, given the settings at the opening of
the form, its values, and the settings just before the save. -/
structure Overlaid (opened values before after : Json.Members) : Prop where
  /-- A key that was changed in the form has the value of the form. -/
  changed : ∀ key, values.get? key ≠ opened.get? key → after.get? key = values.get? key
  /-- A key that was not changed in the form is put back to the value at the opening. -/
  restored : ∀ key value, opened.get? key = some value → values.get? key = some value →
    after.get? key = some value
  /-- A key that the form holds no value for keeps its value. -/
  untouched : ∀ key, values.get? key = none → after.get? key = before.get? key
  /-- The save undoes nothing exactly if no key has changed that it puts back. -/
  lossless : (∀ key, values.get? key = opened.get? key → after.get? key = before.get? key) ↔
    ∀ key value, opened.get? key = some value → values.get? key = some value →
      before.get? key = some value

namespace Document

variable {document : Document} {id : Json}

/-- There are settings if there is a node with an object for them. -/
theorem settings?_eq_some {settings : Json.Members} :
    document.settings? id = some settings ↔
      ∃ node, document.node? id = some node ∧ node.config = .obj settings := by
  -- Settings are there exactly if they are an object.
  have members (config : Json) : config.members? = some settings ↔ config = .obj settings := by
    cases config <;> simp [Json.members?]
  simp [settings?, Option.bind_eq_some_iff, members]

/-- The node under an id has settings still when a node is changed that keeps its id and has
settings itself. -/
theorem settings?_replaceFirst {other : Json} {old changed : Node} {settings : Json.Members}
    (found : document.node? other = some old) (kept : changed.id = old.id)
    (configured : changed.config = .obj settings)
    (held : ∃ settings, document.settings? id = some settings) :
    ∃ settings, Document.settings?
      { document with nodes := replaceFirst other changed document.nodes } id = some settings := by
  obtain ⟨before, there⟩ := held
  obtain ⟨node, stands, same⟩ := settings?_eq_some.mp there
  -- The node that is looked for is still there, or it is the one that was changed.
  obtain still | now := find?_replaceFirst_cases found kept stands
  · exact ⟨before, settings?_eq_some.mpr ⟨node, still, same⟩⟩
  · exact ⟨settings, settings?_eq_some.mpr ⟨changed, now, configured⟩⟩

end Document

/-- A node still stands after an operation that spares it. -/
theorem Workspace.Step.stands {space next : Workspace} {operation : Operation} {id : Json}
    (step : space.Step operation next) (spares : operation.Spares id) (held : space.Stands id) :
    next.Stands id := by
  obtain ⟨before, there⟩ := held
  obtain ⟨node, stands, same⟩ := Document.settings?_eq_some.mp there
  -- Changed nodes keep their ids, and no step but a removal or a clearing takes a node away.
  cases step with
  | unchanged => exact ⟨before, there⟩
  | added type label position x y randoms =>
    have later := Document.node?_addNode stands
      (.fresh space.settings space.nextId type label x y)
    exact ⟨before, Document.settings?_eq_some.mpr ⟨node, later, same⟩⟩
  | @updated _ patch label old changed found merged =>
    have kept : changed.id = old.id := congrArg Prod.fst (Node.update_frame merged)
    obtain ⟨settings, members, -, -, rfl⟩ := Node.update_eq_ok.mp merged
    exact Document.settings?_replaceFirst found kept (Node.relabel_config ..) ⟨before, there⟩
  | @conditioned _ condition text old changed found stored =>
    have kept : changed.id = old.id := congrArg Prod.fst (Node.withCondition_frame stored)
    obtain ⟨settings, pairs, -, -, rfl⟩ := Node.withCondition_eq_ok.mp stored
    exact Document.settings?_replaceFirst found kept rfl ⟨before, there⟩
  | nodeRemoved removed =>
    -- The node that is removed is another one, since this one is spared.
    have later := (Document.node?_removeNode space.document spares).trans stands
    exact ⟨before, Document.settings?_eq_some.mpr ⟨node, later, same⟩⟩
  | edgeRemoved | connected => exact ⟨before, there⟩
  | cleared => exact spares.elim

namespace EditorSession

section Actions

variable {session : EditorSession} {place : Nat}

/-- The operation of an action that spares a node spares it, too. -/
theorem spares_of_operation? {id : Json} {action : EditorAction} {operation : Operation}
    (spares : action.Spares id) (asked : session.operation? action = some operation) :
    operation.Spares id := by
  -- Only a removal and a clearing can take the node away, and the action spares it.
  cases operation_origin asked with
  | nodeRemoved | cleared => exact spares
  | _ => trivial

/-- A node still stands after an action that spares it. -/
theorem Effect.stands {action : EditorAction} {next : Workspace} {id : Json}
    (effect : session.Effect action next) (spares : action.Spares id)
    (held : session.editor.space.Stands id) : next.Stands id := by
  cases effect with
  | unchanged same => exact same ▸ held
  | edited operation asked made =>
    subst made
    have step := session.editor.space.after_step (isEdit_of_operation? asked)
    exact step.stands (spares_of_operation? spares asked) held
  | viewed viewport moved => exact moved ▸ held
  | imported source document viewport named read placed =>
    -- Nothing is imported by an action that spares a node.
    cases action with
    | importFrom | loadFile => exact spares.elim
    | _ => cases named

/-- A node still stands after actions that spare it. -/
theorem run_stands {id : Json} {actions : List EditorAction}
    (spares : ∀ action ∈ actions, action.Spares id) (held : session.editor.space.Stands id) :
    (session.run actions).editor.space.Stands id :=
  run_keeps (fun action listed _ _ effect => effect.stands (spares action listed)) held

/-- The form at a place is saved in the document. -/
theorem saveForm_document {form : Form} {document : Document} {stored : Bool}
    (open_ : session.forms[place]? = some form)
    (saved : form.save session.editor.document = .ok (document, stored)) :
    (session.after (.saveForm place)).editor.document = document := by
  -- What the form saves is taken over as a whole.
  simp only [after, saveForm, open_, Editor.save, saved]
  rfl

end Actions

section Overlap

variable {opened values before : Json.Members}

/-- A merge of values that have grown out of the settings at the opening puts these back where they
were not changed. -/
theorem overlaid_merge (distinct : (values.map Prod.fst).Nodup)
    (grown : ∀ key, values.get? key = none → opened.get? key = none) :
    Overlaid opened values before (before.merge values) := by
  -- A key has the value of the form, or else the one that stood there before.
  have merged (key : String) :
      (before.merge values).get? key = (values.get? key).or (before.get? key) :=
    Json.Members.get?_merge distinct before key
  have untouched (key : String) (absent : values.get? key = none) :
      (before.merge values).get? key = before.get? key := by
    rw [merged, absent, Option.none_or]
  have restored (key : String) (value : Json) (kept : values.get? key = some value) :
      (before.merge values).get? key = some value := by
    rw [merged, kept, Option.some_or]
  refine ⟨fun key differs => ?_, fun key value _ kept => restored key value kept, untouched,
    fun same key value given kept => ?_, fun same key kept => ?_⟩
  · -- No key of the settings gets lost in the form, so a changed key has a value there.
    cases held : values.get? key with
    | none => exact absurd (held.trans (grown key held).symm) differs
    | some value => exact restored key value held
  · exact (same key (kept.trans given.symm)).symm.trans (restored key value kept)
  -- A key that was left as it was opened gets back what it had then.
  · cases held : values.get? key with
    | none => exact untouched key held
    | some value =>
      rw [restored key value held, same key value (kept.symm.trans held) held]

variable {session : EditorSession} {id : Json} {node : Node}

/-- A form for settings that the editor opens on a node comes behind all forms that are there, and
shows the node as it is. -/
theorem openForm_shown {opening : StepForm} (found : session.editor.document.node? id = some node)
    (opens : (session.editor.edit id).result = .ok (some (.step opening))) :
    (session.after (.openForm id)).forms[session.forms.length]? =
      some (.step (session.editor.stepForm node)) := by
  -- Another kind of form is opened only for a branch.
  obtain ⟨other, there, ⟨-, shown⟩ | ⟨-, shown⟩⟩ := Editor.edit_eq_some opens
  · cases shown
  · obtain rfl : node = other := Option.some.inj (found.symm.trans there)
    exact shown ▸ openForm_form opens

/-- Whatever is done between the opening of a form and its save, as long as its node is not taken
away: the form holds the settings of the opening with what was entered in it, and the save puts all
of that over the settings that the node has by then. A key that the user changed has the user's
value; any other key that the form holds goes back to its value at the opening; and the rest keep
their values. So nothing that others did meanwhile is undone exactly if none of the keys that go
back has changed. -/
theorem run_overlaid {place : Nat} {opened : Json.Members} {sections : List Section}
    {start : Field → Lookup} (found : session.editor.document.node? id = some node)
    (shown : session.forms[place]? = some (.step (.ofNode node sections start)))
    (configured : node.config = .obj opened) (distinct : (opened.map Prod.fst).Nodup)
    (actions : List EditorAction) (spares : ∀ action ∈ actions, action.Spares node.id) :
    let later := session.run actions
    ∃ (form : StepForm) (before after : Json.Members),
      later.forms[place]? = some (.step form) ∧
      form.values = opened.merge ((StepForm.ofNode node sections start).entries
        (EditorAction.changesAt place actions)) ∧
      later.editor.document.settings? node.id = some before ∧
      (later.after (.saveForm place)).editor.document.settings? node.id = some after ∧
      Overlaid opened form.values before after := by
  intro later
  -- The node stands when the form is opened, and still does when it is saved.
  have stands : session.editor.space.Stands node.id :=
    ⟨opened, Document.settings?_eq_some.mpr ⟨node, Document.node?_own found, configured⟩⟩
  obtain ⟨before, held⟩ := run_stands spares stands
  obtain ⟨current, there, current_config⟩ := Document.settings?_eq_some.mp held
  -- Of all the actions only the changes in the form itself tell on it.
  obtain ⟨form, reached, continues⟩ :=
    StepForm.run_continues (EditorAction.changesAt place actions) (.ofNode node sections start)
  have open_ : later.forms[place]? = some (.step form) := by
    rw [← reached]
    exact run_form actions shown
  have placed : form.node = node.id := continues.node
  have values : form.values = opened.merge ((StepForm.ofNode node sections start).entries
      (EditorAction.changesAt place actions)) := by
    rw [continues.values]
    simp [StepForm.ofNode, configured, Json.members?]
  have saved := StepForm.save_eq (placed ▸ there) current_config
  have written := StepForm.node?_written (placed ▸ there) before
  -- The save is a merge over the settings of the moment.
  refine ⟨form, before, before.merge form.values, open_, values, held, ?_, ?_⟩
  · rw [saveForm_document open_ saved, ← placed]
    exact Document.settings?_eq_some.mpr ⟨_, written, form.written_config current before⟩
  · refine overlaid_merge ?_ fun key absent => ?_
    · rw [values]
      exact Json.Members.distinct_merge distinct _
    · rw [values] at absent
      exact Json.Members.get?_of_merge absent

end Overlap

/-- A mail with a setting that no form shows. -/
def countedMail : Node :=
  { (default : Node) with
    id := .str "n"
    type := .str "mail"
    config := .obj [("count", .int 1)] }

/-- A session with the mail in its document, in which settings are edited in forms. -/
def counting : EditorSession where
  editor :=
    { tools := [], properties := [], catalog := .empty, host := none, inlineForms := true
      options := .nowhere
      space := (Workspace.start default (.numbered [])).withDocument
        { Document.empty with nodes := [countedMail] } }
  forms := []

/-- The setting is counted up while a recipient is entered in a form, and a note is made. -/
def meanwhile : List EditorAction :=
  [.update (.str "n") (.obj [("count", .int 2), ("note", .str "new")]) .null,
    .changeForm 0 (.enter none [("to", .str "host")])]

/-- The recipient and the note are there after the save, and the count is put back. -/
theorem meanwhile_overlaid :
    let later := (counting.after (.openForm (.str "n"))).run meanwhile
    ∃ before after, later.editor.document.settings? (.str "n") = some before ∧
      (later.after (.saveForm 0)).editor.document.settings? (.str "n") = some after ∧
      after.get? "to" = some (.str "host") ∧ after.get? "note" = before.get? "note" ∧
      after.get? "count" = some (.int 1) := by
  intro later
  have found : counting.editor.document.node? (.str "n") = some countedMail := by decide +kernel
  have same_editor : (counting.after (.openForm (.str "n"))).editor = counting.editor :=
    counting.editor.edit_editor (.str "n")
  obtain ⟨form, before, after, -, values, held, saved, overlaid⟩ :=
    run_overlaid (same_editor ▸ found) (openForm_shown found (by rfl)) rfl (by decide) meanwhile
      (by simp [meanwhile, EditorAction.Spares])
  have same : form.values = [("count", .int 1), ("to", .str "host")] := values
  refine ⟨before, after, held, saved, ?_, overlaid.untouched "note" (by rw [same]; rfl),
    overlaid.restored "count" _ rfl (by rw [same]; rfl)⟩
  -- The recipient was changed by the host, and the form has a value for that key.
  have entered := overlaid.changed "to"
  rw [same] at entered
  exact entered (by decide)

/-- The count was not changed in the form, and its value just before the save is lost. -/
theorem meanwhile_undone :
    let later := (counting.after (.openForm (.str "n"))).run meanwhile
    (∃ form, later.forms[0]? = some (.step form) ∧
      form.values.get? "count" = Json.Members.get? [("count", .int 1)] "count") ∧
    (later.editor.document.settings? (.str "n")).map (·.get? "count") = some (some (.int 2)) ∧
    ((later.after (.saveForm 0)).editor.document.settings? (.str "n")).map (·.get? "count") =
      some (some (.int 1)) :=
  -- The count was raised by the host while the form was open, and saving sets it back.
  ⟨⟨_, by rfl, by rfl⟩, by rfl, by rfl⟩

end EditorSession

end Flowchart
