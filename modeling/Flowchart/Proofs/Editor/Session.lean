import Flowchart.Editor.Session
import Flowchart.Proofs.Document.Steps
import Flowchart.Proofs.Outcome

/-! What an action can do to the document under edit: it comes to one operation on the document, or
it moves the view, or it puts an imported document in the place of the old one. -/

namespace Flowchart

/-- What an action imports from; a file counts if it can be read. -/
def EditorAction.source? : EditorAction → Option ImportSource
  | .importFrom source => some source
  | .loadFile files path =>
    match Editor.readFile files path with
    | .ok (some value) => some (.value value)
    | _ => none
  | _ => none

/-- The operation that saving a form comes to; an incomplete condition is not stored, and neither is
one that cannot be shown. -/
def Form.operation? : Form → Option Operation
  | .condition form => do
    let condition ← form.condition?
    let text ← form.summary.toOption
    return .setCondition form.node (.obj condition) (.str text)
  | .step form => some (.updateNode form.node (.obj form.values) form.label)

namespace EditorSession

/-- The operation on the document that an action comes to. -/
def operation? (session : EditorSession) : EditorAction → Option Operation
  | .addNode type label position => some (.addNode type label position)
  | .dropTool tool position =>
    let entry := session.editor.tools.find? fun entry => .str entry.id == tool
    some (.addNode tool (.ofText? (entry.map Tool.label)) position)
  | .connect source sourcePort target targetPort =>
    some (.connect source sourcePort target targetPort)
  | .removeNode node => some (.removeNode node)
  | .removeEdge edge => some (.removeEdge edge)
  | .update node patch label => some (.updateNode node patch label)
  | .saveForm place => session.forms[place]?.bind Form.operation?
  -- A host that is asked can withhold its consent.
  | .clear ask => if (session.editor.clear ask).result then some .clear else none
  | _ => none

/-- What an action can do to the document under edit. -/
inductive Effect (session : EditorSession) (action : EditorAction) (next : Workspace) : Prop where
  | unchanged (same : next = session.editor.space)
  | edited (operation : Operation) (asked : session.operation? action = some operation)
    (made : next = session.editor.space.after operation)
  | viewed (viewport : Json.Members)
    (moved : next = session.editor.space.withDocument { session.editor.document with viewport })
  | imported (source : ImportSource) (document : Document) (viewport : Json.Members)
    (named : action.source? = some source) (read : source.document = .ok document)
    (placed : next = session.editor.space.withDocument { document with viewport })

/-- Where the operation of an action comes from: the action names it, or it stores an open form. -/
inductive OperationOrigin (session : EditorSession) : EditorAction → Operation → Prop where
  | added {type label position : Json} :
    session.OperationOrigin (.addNode type label position) (.addNode type label position)
  | dropped {tool position : Json} (label : Option String) :
    session.OperationOrigin (.dropTool tool position) (.addNode tool (.ofText? label) position)
  | connected {source sourcePort target targetPort : Json} :
    session.OperationOrigin (.connect source sourcePort target targetPort)
      (.connect source sourcePort target targetPort)
  | nodeRemoved {node : Json} : session.OperationOrigin (.removeNode node) (.removeNode node)
  | edgeRemoved {edge : Json} : session.OperationOrigin (.removeEdge edge) (.removeEdge edge)
  | updated {node patch label : Json} :
    session.OperationOrigin (.update node patch label) (.updateNode node patch label)
  | cleared {ask : Bool} : session.OperationOrigin (.clear ask) .clear
  | condition {place : Nat} {form : ConditionForm} {condition : Json.Members} {text : String}
    (open_ : session.forms[place]? = some (.condition form))
    (complete : form.condition? = some condition) (shown : form.summary = .ok text) :
    session.OperationOrigin (.saveForm place)
      (.setCondition form.node (.obj condition) (.str text))
  | step {place : Nat} {form : StepForm} (open_ : session.forms[place]? = some (.step form)) :
    session.OperationOrigin (.saveForm place) (.updateNode form.node (.obj form.values) form.label)

end EditorSession

namespace Editor

variable {editor : Editor}

/-- Moving the view moves nothing else. -/
theorem fit_eq_ok {moved : Editor} {padding : Json} (fitted : editor.fit padding = .ok moved) :
    ∃ viewport, moved = editor.withDocument { editor.document with viewport } := by
  -- Fitting changes the view alone.
  obtain ⟨shown, view, same⟩ := bind_eq_ok.mp fitted
  obtain ⟨viewport, -, made⟩ := bind_eq_ok.mp view
  simp only [Pure.pure, Except.pure, Except.ok.injEq] at same made
  exact ⟨viewport, by rw [← same, ← made]⟩

/-- An imported document is put in place, whatever becomes of the view. -/
theorem importFrom_editor {source : ImportSource} {document : Document}
    (imported : source.document = .ok document) :
    ∃ viewport, (editor.importFrom source).editor =
      editor.withDocument { document with viewport } := by
  -- The document is in place whether or not its view can be fitted.
  simp only [importFrom, imported]
  cases moved : (editor.withDocument document).fit fitPadding with
  | error fault => exact ⟨document.viewport, rfl⟩
  | ok fitted => exact fit_eq_ok moved

/-- A source that cannot be imported leaves the editor as it is. -/
theorem importFrom_of_error {source : ImportSource} {error : ImportError}
    (failed : source.document = .error error) : (editor.importFrom source).editor = editor := by
  -- Each kind of error is answered or raised, and the editor is the same in both cases.
  simp only [importFrom, failed]
  split <;> rfl

/-- An import leaves the properties alone. -/
theorem importFrom_properties (editor : Editor) (source : ImportSource) :
    (editor.importFrom source).editor.properties = editor.properties := by
  -- An import that fails leaves the editor as it is, and one that succeeds sets the document only.
  cases read : source.document with
  | error error => rw [importFrom_of_error read]
  | ok document =>
    obtain ⟨viewport, placed⟩ := editor.importFrom_editor read
    rw [placed]
    rfl

/-- Opening a form leaves the editor as it is. -/
theorem edit_editor (editor : Editor) (node : Json) : (editor.edit node).editor = editor := by
  -- Every way through it hands the editor back, the one that tells of a type included.
  unfold edit
  split
  · rfl
  · split_ifs
    · rfl
    · rfl
    · rfl
    · split <;> rfl

end Editor

namespace EditorSession

variable (session : EditorSession)

/-- Adding a node in the editor adds it to the document. -/
theorem withEditor_addNode (type label position : Json) :
    (session.withEditor ((session.editor.addNode type label position).map Prod.fst)).editor.space =
      session.editor.space.after (.addNode type label position) := by
  -- The editor adds what its workspace adds, and drops nothing if that fails.
  simp only [Editor.addNode, Workspace.after, Workspace.perform]
  cases session.editor.space.addNode type label position <;> rfl

/-- Saving a form carries out its operation if it comes to one. -/
theorem withEditor_save (form : Form) :
    (session.withEditor ((session.editor.save form).map Prod.fst)).editor.space =
      form.operation?.elim session.editor.space session.editor.space.after := by
  -- A form that stores nothing stands for no operation; otherwise saving is the operation that it
  -- stands for.
  cases form with
  | condition form =>
    simp only [Editor.save, Form.save, ConditionForm.save, Form.operation?]
    cases form.condition? with
    | none => rfl
    | some condition =>
      cases form.summary with
      | error reason => rfl
      | ok text =>
        simp only [Except.mapError, Except.toOption, Bind.bind, Option.bind_some, Except.bind,
          Pure.pure, Option.elim_some, Workspace.after, Workspace.perform, Editor.document]
        cases session.editor.space.document.setCondition form.node (.obj condition) (.str text) <;>
          rfl
  | step form =>
    simp only [Editor.save, Form.save, StepForm.save, Form.operation?, Option.elim_some,
      Workspace.after, Workspace.perform, Editor.document]
    cases session.editor.space.document.updateNode form.node (.obj form.values) form.label <;> rfl

/-- An edit that comes back from the host is carried out on the document. -/
theorem update_space (node patch label : Json) :
    (session.editor.update node patch label).editor.space =
      session.editor.space.after (.updateNode node patch label) := by
  -- An unknown node is told to the host, and every other fault is raised.
  simp only [Editor.update, Workspace.after, Workspace.perform, Editor.document]
  cases session.editor.space.document.updateNode node patch label with
  | ok made => rfl
  | error fault => cases fault <;> rfl

/-- A connection in the editor is made in the document. -/
theorem connect_space (source sourcePort target targetPort : Json) :
    (session.editor.connect source sourcePort target targetPort).1.space =
      session.editor.space.after (.connect source sourcePort target targetPort) := by
  -- The editor does nothing to the workspace beside connecting.
  simp only [Editor.connect, Workspace.after, Workspace.perform]
  cases session.editor.space.connect source sourcePort target targetPort with
  | mk space edge => cases edge <;> rfl

/-- The document is cleared if the editor tells so. -/
theorem clear_space (ask : Bool) :
    (session.editor.clear ask).editor.space =
      if (session.editor.clear ask).result then session.editor.space.after .clear
      else session.editor.space := by
  cases ask with
  | false => rfl
  | true =>
    -- Without a host nobody is asked.
    cases hosted : session.editor.host with
    | none => simp [Editor.clear, hosted, Editor.quietly, Workspace.after, Workspace.perform,
        Editor.withDocument, Editor.document]
    | some host =>
      cases granted : host.grants <;>
        simp [Editor.clear, hosted, granted, Workspace.after, Workspace.perform,
          Editor.withDocument, Editor.document]

variable {session}

/-- An import puts its document in place or leaves everything as it is. -/
theorem Effect.of_importFrom {action : EditorAction} {source : ImportSource}
    (named : action.source? = some source) :
    session.Effect action (session.editor.importFrom source).editor.space := by
  -- Only a document that can be read is put in place, even if it cannot be shown.
  cases read : source.document with
  | error error => exact .unchanged (by rw [Editor.importFrom_of_error read])
  | ok document =>
    obtain ⟨viewport, placed⟩ := session.editor.importFrom_editor read
    exact .imported source document viewport named read (by rw [placed]; rfl)

/-- Every action has one of the effects. -/
theorem after_effect (session : EditorSession) (action : EditorAction) :
    session.Effect action (session.after action).editor.space := by
  -- Each kind of action is opened once, here.
  cases action with
  | attach host => exact .unchanged rfl
  | setProperties properties => exact .unchanged rfl
  | addNode type label position =>
    exact .edited _ rfl (session.withEditor_addNode type label position)
  | dropTool tool position => exact .edited _ rfl (session.withEditor_addNode tool _ position)
  | connect source sourcePort target targetPort =>
    exact .edited _ rfl (session.connect_space source sourcePort target targetPort)
  | removeNode node => exact .edited _ rfl rfl
  | removeEdge edge => exact .edited _ rfl rfl
  | update node patch label => exact .edited _ rfl (session.update_space node patch label)
  | openForm node =>
    exact .unchanged (congrArg Editor.space (session.editor.edit_editor node))
  | changeForm place change => exact .unchanged rfl
  | saveForm place =>
    simp only [after, saveForm]
    cases held : session.forms[place]? with
    | none => exact .unchanged rfl
    | some form =>
      -- Saving a form is an edit exactly if the form has something to store.
      have saved := session.withEditor_save form
      have asked : session.operation? (.saveForm place) = form.operation? := by
        simp [operation?, held]
      cases comes : form.operation? with
      | none => exact .unchanged (by rw [saved, comes]; rfl)
      | some operation =>
        exact .edited operation (by rw [asked, comes]) (by rw [saved, comes]; rfl)
  | importFrom source => exact .of_importFrom rfl
  | loadFile files path =>
    simp only [after, Editor.loadFile]
    -- A file that cannot be read ends the action before anything is imported.
    cases read : Editor.readFile files path with
    | error fault => exact .unchanged rfl
    | ok value =>
      cases value with
      | none => exact .unchanged rfl
      | some value => exact .of_importFrom (by simp only [EditorAction.source?, read])
  | clear ask =>
    -- The document is cleared unless the host is asked and says no.
    have cleared := session.clear_space ask
    by_cases consent : (session.editor.clear ask).result = true
    · exact .edited .clear (if_pos consent) (cleared.trans (if_pos consent))
    · exact .unchanged (cleared.trans (if_neg consent))
  | fit padding =>
    simp only [after]
    cases moved : session.editor.fit padding with
    | error fault => exact .unchanged rfl
    | ok fitted =>
      -- A fitted view is all that a change of the view can bring.
      obtain ⟨viewport, rfl⟩ := Editor.fit_eq_ok moved
      exact .viewed viewport rfl

/-- The properties stay what they are until they are replaced. -/
theorem after_properties (session : EditorSession) (action : EditorAction) :
    (session.after action).editor.properties = session.editor.properties ∨
      ∃ properties, action = .setProperties properties ∧
        (session.after action).editor.properties = properties := by
  -- Only one action sets properties; each of the others has to be followed to its end.
  cases action with
  | setProperties properties => exact .inr ⟨properties, rfl, rfl⟩
  | addNode | dropTool =>
    simp only [after, Editor.dropTool, Editor.addNode]
    cases session.editor.space.addNode _ _ _ <;> exact .inl rfl
  | update node patch label =>
    simp only [after, Editor.update]
    split <;> exact .inl rfl
  | openForm node => exact .inl (congrArg Editor.properties (session.editor.edit_editor node))
  | saveForm place =>
    simp only [after, saveForm, Editor.save]
    cases session.forms[place]? with
    | none => exact .inl rfl
    | some form =>
      -- A form saves into the document, and the properties are no part of it.
      dsimp only
      cases form.save session.editor.document <;> exact .inl rfl
  | importFrom source => exact .inl (session.editor.importFrom_properties source)
  -- A file is imported if it can be read, and an import keeps the properties.
  | loadFile files path =>
    simp only [after, Editor.loadFile]
    split
    · exact .inl rfl
    · exact .inl rfl
    · exact .inl (session.editor.importFrom_properties _)
  | clear ask =>
    simp only [after, Editor.clear]
    -- Clearing sets the document, with the host's consent or without asking for it.
    split
    · split <;> exact .inl rfl
    · exact .inl rfl
  | fit padding =>
    simp only [after]
    cases moved : session.editor.fit padding with
    | error fault => exact .inl rfl
    | ok fitted =>
      obtain ⟨viewport, rfl⟩ := Editor.fit_eq_ok moved
      exact .inl rfl
  | _ => exact .inl rfl

/-- Every operation comes from its action. -/
theorem operation_origin {action : EditorAction} {operation : Operation}
    (asked : session.operation? action = some operation) :
    session.OperationOrigin action operation := by
  -- Each action that edits asks for one operation, and the others ask for none.
  cases action with
  | addNode =>
    cases asked
    exact .added
  | dropTool =>
    cases asked
    exact .dropped _
  | connect =>
    cases asked
    exact .connected
  | removeNode =>
    cases asked
    exact .nodeRemoved
  | removeEdge =>
    cases asked
    exact .edgeRemoved
  | update =>
    cases asked
    exact .updated
  | saveForm place =>
    obtain ⟨form, open_, comes⟩ := Option.bind_eq_some_iff.mp asked
    -- A form asks for the operation that stores what it holds.
    cases form with
    | condition form =>
      -- A branch is only stored with a condition that is complete and can be shown.
      obtain ⟨condition, complete, rest⟩ := Option.bind_eq_some_iff.mp comes
      obtain ⟨text, shown, made⟩ := Option.bind_eq_some_iff.mp rest
      cases made
      exact .condition open_ complete (toOption_eq_some.mp shown)
    | step form =>
      cases comes
      exact .step open_
  | clear ask =>
    simp only [operation?] at asked
    -- No operation is asked for if the host does not want the document to be cleared.
    split at asked
    · cases asked
      exact .cleared
    · cases asked
  | _ => cases asked

/-- An action never comes to the replacement of the document by an operation. -/
theorem isEdit_of_operation? {action : EditorAction} {operation : Operation}
    (asked : session.operation? action = some operation) : operation.IsEdit := by
  cases operation_origin asked <;> trivial

/-- What holds of every node goes on to hold of every node after an action, if the operation of the
action keeps it and what the action imports has it. -/
theorem Effect.nodes_forall {property : Node → Prop} {action : EditorAction} {next : Workspace}
    (effect : session.Effect action next)
    (kept : ∀ operation, session.operation? action = some operation →
      session.editor.space.Step operation next → ∀ node ∈ next.document.nodes, property node)
    (brought : ∀ source document, action.source? = some source → source.document = .ok document →
      ∀ node ∈ document.nodes, property node)
    (each : ∀ node ∈ session.editor.document.nodes, property node) :
    ∀ node ∈ next.document.nodes, property node := by
  -- Nodes come from the steps of edits and from imported documents, and a view brings none.
  cases effect with
  | unchanged same => exact same ▸ each
  | edited operation asked made =>
    subst made
    exact kept operation asked (session.editor.space.after_step (isEdit_of_operation? asked))
  | viewed viewport moved => exact moved ▸ each
  | imported source document viewport named read placed =>
    exact placed ▸ brought source document named read

/-- A run is its first action and then the rest of it. -/
theorem run_cons (action : EditorAction) (rest : List EditorAction) :
    session.run (action :: rest) = (session.after action).run rest := rfl

/-- What every effect of the actions of a run keeps, the run keeps. -/
theorem run_keeps {property : Workspace → Prop} {actions : List EditorAction}
    (kept : ∀ action ∈ actions, ∀ (session : EditorSession) (next : Workspace),
      session.Effect action next → property session.editor.space → property next)
    (start : property session.editor.space) : property (session.run actions).editor.space := by
  -- The induction follows the run, so the session it starts from stays free.
  induction actions generalizing session with
  | nil => exact start
  | cons action rest ih =>
    rw [run_cons]
    refine ih (fun later member => kept later (List.mem_cons_of_mem _ member)) ?_
    exact kept action List.mem_cons_self session _ (session.after_effect action) start

end EditorSession

end Flowchart
