import Flowchart.Proofs.Document.Coherence
import Flowchart.Proofs.Document.Typed
import Flowchart.Proofs.Editor.Forms
import Flowchart.Proofs.Form.Untouched

/-! Sessions that start with an empty canvas and import nothing. The label and the text of a node are
written by four operations, of which one writes the text alone, and only for conditions. The main
statement says that they are one text on every step, so that a form that nothing is entered in
changes nothing when it is saved. -/

namespace Flowchart

/-- Every node under an id branches. -/
def Document.Branches (document : Document) (id : Json) : Prop :=
  ∀ node ∈ document.nodes, node.id = id → node.isBranch = true

/-- An operation that gives texts for types and for labels. -/
def Operation.IsWorded : Operation → Prop
  | .addNode type label _ => (∃ text, type = .str text) ∧ label.IsLabel
  | .updateNode _ _ label => label.IsLabel
  | .setCondition _ _ text => ∃ shown, text = .str shown
  | _ => True

/-- An action that gives texts for types and for labels. -/
def EditorAction.IsWorded : EditorAction → Prop
  | .addNode type label _ => (∃ text, type = .str text) ∧ label.IsLabel
  | .dropTool tool _ => ∃ text, tool = .str text
  | .update _ _ label => label.IsLabel
  | .changeForm _ change => change.IsWorded
  | _ => True

namespace Node

variable {node changed : Node}

/-- A node keeps its type within its frame. -/
theorem isBranch_of_frame (kept : changed.frame = node.frame) : changed.isBranch = node.isBranch := by
  -- What a node is, is told by its type, and that is part of the frame.
  have type : changed.type = node.type := congrArg (fun frame => frame.2.1) kept
  rw [isBranch, isBranch, type]

/-- The label of a fresh step is its text. -/
theorem fresh_inStep (settings : Settings) (id type label : Json) (x y : Float) :
    (fresh settings id type label x y).InStep where
  -- A node that is no branch has its text for its label from the start.
  labelled step := by
    have plain : type ≠ branchType := of_decide_eq_false step
    simp [fresh, plain]
  configured := ⟨[], rfl, List.nodup_nil⟩
  keyed := rfl

/-- Settings and a label that are put on a node keep its label and its text in step. -/
theorem InStep.update (inStep : node.InStep) {patch label : Json}
    (updated : node.update patch label = .ok changed) : changed.InStep := by
  have branches := isBranch_of_frame (update_frame updated)
  -- What is updated keeps its mapping, in which the members of the patch are put.
  obtain ⟨settings, members, configured, rfl, rfl⟩ := update_eq_ok.mp updated
  obtain ⟨_, same, distinct⟩ := inStep.configured
  obtain rfl := Json.obj.inj (configured.symm.trans same)
  refine ⟨fun step => ?_, ⟨_, relabel_config .., Json.Members.distinct_merge distinct members⟩, ?_⟩
  · -- A label is put in both places.
    cases label with
    | null => exact inStep.labelled (branches ▸ step)
    | _ => rfl
  · cases label <;> simp [relabel, inStep.keyed]

/-- The condition that a branch stores shows in its text alone. -/
theorem InStep.withCondition (inStep : node.InStep) (branches : node.isBranch = true)
    {condition : Json.Members} {text : Json}
    (stored : node.withCondition (.obj condition) text = .ok changed) : changed.InStep := by
  obtain ⟨settings, configured, distinct⟩ := inStep.configured
  rw [withCondition_obj configured, Except.ok.injEq] at stored
  subst stored
  -- Only branches are given conditions, so nothing is asked of the label.
  refine ⟨fun step => ?_, ⟨_, rfl, Json.Members.distinct_set distinct _ _⟩, rfl⟩
  cases branches.symm.trans step

/-- A fresh node shows texts if its type and its label are given as texts. -/
theorem fresh_worded (settings : Settings) (id : Json) (type : String) {label : Json}
    (given : label.IsLabel) (x y : Float) :
    (fresh settings id (.str type) label x y).Worded := by
  -- A new node is labelled by what it was given, or by its type.
  obtain ⟨label, rfl⟩ := given
  exact ⟨fresh_label settings id type label x y, fresh_text settings id type label x y⟩

/-- A node shows texts still when a label is given as a text, or none. -/
theorem Worded.update (worded : node.Worded) {patch label : Json} (given : label.IsLabel)
    (updated : node.update patch label = .ok changed) : changed.Worded := by
  obtain ⟨settings, members, -, -, rfl⟩ := update_eq_ok.mp updated
  obtain ⟨label, rfl⟩ := given
  -- A label that is given stands for the text as well, and without one both stay.
  cases label with
  | none => exact ⟨worded.label, worded.text⟩
  | some label => exact ⟨⟨label, rfl⟩, ⟨label, rfl⟩⟩

/-- A node shows texts still when its condition is shown by a text. -/
theorem Worded.withCondition (worded : node.Worded) {condition : Json} {text : String}
    (stored : node.withCondition condition (.str text) = .ok changed) : changed.Worded := by
  -- A condition changes the text, and to a text.
  obtain ⟨settings, pairs, -, -, rfl⟩ := withCondition_eq_ok.mp stored
  exact ⟨worded.label, text, rfl⟩

end Node

namespace Workspace

variable {space next : Workspace} {operation : Operation}

/-- What was drawn stays drawn. -/
theorem Step.hasDrawn (step : space.Step operation next) {id : Json} (drawn : space.HasDrawn id) :
    next.HasDrawn id := by
  -- Two kinds of steps draw ids, and both only move the supply on.
  cases step with
  | added type label position x y randoms => exact drawn.later randoms
  | connected => exact drawn.later space.supply.randoms
  | _ => exact drawn

/-- An id that was drawn for a branch stays that of a branch. -/
theorem Step.branches (step : space.Step operation next) {id : Json} (drawn : space.HasDrawn id)
    (branches : space.document.Branches id) : next.document.Branches id := by
  intro node member named
  have inherit {old : Node} {other : Json} (found : space.document.node? other = some old)
      (kept : node.frame = old.frame) : node.isBranch = true := by
    have same : node.id = old.id := congrArg Prod.fst kept
    rw [Node.isBranch_of_frame kept]
    exact branches old (Document.node?_mem found) (same ▸ named)
  cases step.origin member with
  | kept before => exact branches node before named
  | fresh type label position x y asked made =>
    -- A fresh node has an id that was not drawn before.
    subst made
    exact (drawn.ne_nextId named.symm).elim
  | updated other patch label old asked found merged =>
    exact inherit found (Node.update_frame merged)
  | conditioned other condition text old asked found stored =>
    exact inherit found (Node.withCondition_frame stored)

/-- Labels and texts stay in step if conditions are stored in branches only. -/
theorem Step.inStep (step : space.Step operation next) (sound : space.Sound)
    (conditions : ∀ id condition text, operation = .setCondition id condition text →
      (∃ members, condition = .obj members) ∧ space.document.Branches id)
    (each : ∀ node ∈ space.document.nodes, node.InStep) :
    ∀ node ∈ next.document.nodes, node.InStep := by
  intro node member
  -- A condition is only stored at a branch; this is where the ids have to be unique.
  cases step.origin member with
  | kept before => exact each node before
  | fresh type label position x y asked made => exact made ▸ Node.fresh_inStep _ _ _ _ x y
  | updated id patch label old asked found merged =>
    exact (each old (Document.node?_mem found)).update merged
  | conditioned id condition text old asked found stored =>
    obtain ⟨⟨members, rfl⟩, branches⟩ := conditions id condition text asked
    obtain ⟨inside, named⟩ := sound.named.node?_eq_some.mp found
    exact (each old inside).withCondition (branches old inside named) stored

/-- Nodes show texts still after an operation that gives texts. -/
theorem Step.worded (step : space.Step operation next) (given : operation.IsWorded)
    (each : ∀ node ∈ space.document.nodes, node.Worded) :
    ∀ node ∈ next.document.nodes, node.Worded := by
  -- Each of the three ways to bring a node is given texts for what is shown.
  refine step.nodes_forall ?_ ?_ ?_ each
  · rintro type label position x y rfl
    obtain ⟨⟨type, rfl⟩, label⟩ := given
    exact Node.fresh_worded _ _ type label x y
  · rintro id patch label old changed rfl merged kept
    exact kept.update given merged
  · rintro id condition text old changed rfl stored kept
    obtain ⟨shown, rfl⟩ := given
    exact kept.withCondition stored

/-- A workspace is sound under every view. -/
theorem Sound.view (sound : space.Sound) (viewport : Json.Members) :
    (space.withDocument { space.document with viewport }).Sound where
  -- The view has no part in what the invariant says.
  coherent := by
    have frames : space.document.nodes.map Node.frame =
        ({ space.document with viewport } : Document).nodes.map Node.frame := rfl
    exact { sound.coherent with
      joins := fun edge member => (sound.coherent.joins edge member).congr frames }
  nodesDrawn := sound.nodesDrawn
  edgesDrawn := sound.edgesDrawn

end Workspace

namespace EditorSession

variable {session : EditorSession}

/-- What holds in a session that starts empty and imports nothing: labels and texts are in step, and
every condition form is about a branch, or about one that is gone. -/
structure InStep (session : EditorSession) : Prop where
  sound : session.editor.space.Sound
  nodes : ∀ node ∈ session.editor.document.nodes, node.InStep
  conditions : ∀ (place : Nat) (form : ConditionForm),
    session.forms[place]? = some (.condition form) →
      session.editor.space.HasDrawn form.node ∧ session.editor.document.Branches form.node

/-- A session that starts empty is in step. -/
theorem InStep.start (empty : session.editor.document = .empty) (unopened : session.forms = []) :
    session.InStep := by
  obtain ⟨⟨tools, properties, catalog, host, inlineForms, options, document, settings, supply⟩, forms⟩ :=
    session
  -- A session without nodes and forms has nothing that could be out of step.
  cases empty
  cases unopened
  exact ⟨.start settings supply, nofun, nofun⟩

/-- A condition that a session in step stores is an object, and goes to a branch. -/
theorem InStep.operation (inStep : session.InStep) {action : EditorAction}
    {id condition text : Json}
    (asked : session.operation? action = some (.setCondition id condition text)) :
    (∃ members, condition = .obj members) ∧ session.editor.document.Branches id := by
  -- A condition is set through an open form, and that was opened on a branch.
  cases operation_origin asked with
  | condition open_ => exact ⟨⟨_, rfl⟩, (inStep.conditions _ _ open_).2⟩

/-- A session stays in step under every action that imports nothing, and what was drawn for a branch
stays that of a branch. -/
theorem InStep.after_space (inStep : session.InStep) {action : EditorAction}
    (handmade : action.source? = none) :
    let next := (session.after action).editor.space
    next.Sound ∧ (∀ node ∈ next.document.nodes, node.InStep) ∧
      ∀ id, session.editor.space.HasDrawn id → session.editor.document.Branches id →
        next.HasDrawn id ∧ next.document.Branches id := by
  have effect := session.after_effect action
  intro next
  change session.Effect action next at effect
  generalize next = next at effect
  -- What was done is an edit by one operation, a change of the view, or nothing at all.
  cases effect with
  | unchanged same =>
    subst same
    exact ⟨inStep.sound, inStep.nodes, fun _ drawn branches => ⟨drawn, branches⟩⟩
  | edited operation asked made =>
    subst made
    have step := session.editor.space.after_step (isEdit_of_operation? asked)
    refine ⟨inStep.sound.step step, step.inStep inStep.sound ?_ inStep.nodes,
      fun id drawn branches => ⟨step.hasDrawn drawn, step.branches drawn branches⟩⟩
    rintro id condition text rfl
    exact inStep.operation asked
  | viewed viewport moved =>
    subst moved
    exact ⟨inStep.sound.view viewport, inStep.nodes, fun _ drawn branches => ⟨drawn, branches⟩⟩
  | imported source document viewport named =>
    -- No action of the session imports a document.
    rw [handmade] at named
    cases named

/-- A session stays in step under every action that imports nothing. -/
theorem InStep.after (inStep : session.InStep) {action : EditorAction}
    (handmade : action.source? = none) : (session.after action).InStep := by
  obtain ⟨sound, nodes, drawn⟩ := inStep.after_space handmade
  refine ⟨sound, nodes, fun place form open_ => ?_⟩
  cases form_origin open_ with
  | kept there =>
    obtain ⟨held, branches⟩ := inStep.conditions place form there
    exact drawn form.node held branches
  | @condition before change there =>
    -- A form is about the node that it was opened on, whatever is done in it.
    obtain ⟨held, branches⟩ := inStep.conditions place before there
    rw [before.after_node change]
    exact drawn before.node held branches
  | @branch id node found branches =>
    have member := Document.node?_mem found
    rw [(ConditionForm.ofNode_sound node _).placed]
    refine drawn node.id (inStep.sound.nodesDrawn node member) fun other listed same => ?_
    -- No other node has the id.
    obtain rfl := List.inj_on_of_nodup_map inStep.sound.named.distinct listed member same
    exact branches

/-- What holds in a session in which all types and labels are given as texts: all nodes show texts, and
the labels in forms are texts or null. -/
structure Worded (session : EditorSession) : Prop where
  nodes : ∀ node ∈ session.editor.document.nodes, node.Worded
  labels : ∀ (place : Nat) (form : StepForm), session.forms[place]? = some (.step form) →
    form.label.IsLabel

/-- What an action gives texts for, its operation gives texts for. -/
theorem Worded.operation (worded : session.Worded) {action : EditorAction}
    (given : action.IsWorded) {operation : Operation}
    (asked : session.operation? action = some operation) : operation.IsWorded := by
  -- Texts come from the action, from the tool, or from the form that is saved.
  cases operation_origin asked with
  | added | updated => exact given
  | dropped label => exact ⟨given, label, rfl⟩
  | condition => exact ⟨_, rfl⟩
  | step open_ => exact worded.labels _ _ open_
  | _ => trivial

/-- A session keeps to texts under every action that gives texts and imports nothing. -/
theorem Worded.after (worded : session.Worded) {action : EditorAction}
    (given : action.IsWorded) (handmade : action.source? = none) :
    (session.after action).Worded where
  nodes := by
    refine (session.after_effect action).nodes_forall (fun operation asked step => ?_)
      (fun source document named => ?_) worded.nodes
    · exact step.worded (worded.operation given asked) worded.nodes
    · rw [handmade] at named
      cases named
  labels place form open_ := by
    -- A label is entered in the form, or it was taken from the node.
    cases form_origin open_ with
    | kept there => exact worded.labels place form there
    | @step before change there changed =>
      subst changed
      exact StepForm.after_isLabel given (worded.labels place before there)
    | settings found =>
      exact StepForm.ofNode_isLabel (worded.nodes _ (Document.node?_mem found)) _ _

/-- In a session that starts empty and imports nothing, the label of every step is its text. If types
and labels are given as texts, then saving a form that is opened on a step leaves the document as it
is, whatever was done in the form but to enter something. -/
theorem run_untouched (empty : session.editor.document = .empty) (unopened : session.forms = [])
    {actions : List EditorAction} (handmade : ∀ action ∈ actions, action.source? = none) :
    let document := (session.run actions).editor.document
    ∀ node ∈ document.nodes, node.isBranch = false → node.label = node.text ∧
      ((∀ action ∈ actions, action.IsWorded) → ∀ sections start (changes : List FormChange),
        (∀ change ∈ changes, change.EntersNothing) →
        ∃ form, changes.foldl Form.change (.step (.ofNode node sections start)) = .step form ∧
          form.save document = .ok (document, true)) := by
  intro document node member step
  have inStep : (session.run actions).InStep :=
    (follows_of_forall handmade).keeps (fun _ _ rule before => before.after rule)
      (.start empty unopened)
  refine ⟨(inStep.nodes node member).labelled step, fun given sections start changes nothing => ?_⟩
  -- Where only texts are entered, every node shows a text in the end.
  have worded : (session.run actions).Worded := by
    have rules : ∀ action ∈ actions, action.IsWorded ∧ action.source? = none := fun action listed =>
      ⟨given action listed, handmade action listed⟩
    refine (follows_of_forall rules).keeps (fun _ _ rule before => before.after rule.1 rule.2) ⟨?_, ?_⟩
    · rw [empty]
      exact nofun
    · intro place form open_
      rw [unopened] at open_
      cases open_
  -- The node is found under its own id, and no other is.
  have found := inStep.sound.named.node?_eq_some.mpr ⟨member, rfl⟩
  exact StepForm.save_untouched (inStep.nodes node member) step (worded.nodes node member).text
    sections start found nothing

/-- An empty canvas in an editor that edits steps in forms. -/
def canvas : EditorSession where
  editor :=
    { tools := [⟨"mail", "Mail", none, none⟩], properties := [⟨"age", "Age", .number, none⟩], catalog := .empty
      host := none, inlineForms := true, options := .nowhere
      space := .start default (.numbered []) }
  forms := []

/-- A branch and a mail are added, and both are edited in forms. -/
def lettering : List EditorAction :=
  [.addNode branchType .null .null, .dropTool (.str "mail") .null,
    .openForm (.str "u1"), .changeForm 0 (.choose (.str "age")),
    .changeForm 0 (.compare (some (.str "gt")) (some (.str "5"))), .saveForm 0,
    .openForm (.str "u2"), .changeForm 1 (.enter (some (.str "Send")) [("to", .str "host")]),
    .saveForm 1]

/-- The mail has the label of its form for its text, and a form that is opened on it and folded up
changes nothing. -/
theorem lettering_untouched :
    let document := (canvas.run lettering).editor.document
    ∃ node ∈ document.nodes, node.id = .str "u2" ∧ node.label = .str "Send" ∧
      node.text = .str "Send" ∧ ∀ sections start,
        ∃ form, Form.change (.step (.ofNode node sections start)) (.toggle "General") = .step form ∧
          form.save document = .ok (document, true) := by
  intro document
  -- The second node of the session is a mail with its label changed.
  obtain ⟨first, node, all, named, typed, labelled⟩ : ∃ first second,
      document.nodes = [first, second] ∧ second.id = .str "u2" ∧ second.type = .str "mail" ∧
        second.label = .str "Send" := ⟨_, _, by rfl, by rfl, by rfl, by rfl⟩
  have member : node ∈ document.nodes := by simp [all]
  have step : node.isBranch = false := by
    rw [Node.isBranch, typed]
    decide
  obtain ⟨same, untouched⟩ := run_untouched (by rfl : canvas.editor.document = .empty) rfl
    (by simp [lettering, EditorAction.source?]) node member step
  have worded : ∀ action ∈ lettering, action.IsWorded := by
    simp [lettering, EditorAction.IsWorded, FormChange.IsWorded, branchType]
  exact ⟨node, member, named, labelled, same.symm.trans labelled, fun sections start =>
    untouched worded sections start [.toggle "General"] (by simp [FormChange.EntersNothing])⟩

end EditorSession

end Flowchart
