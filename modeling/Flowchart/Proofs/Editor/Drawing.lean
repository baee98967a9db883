import Flowchart.Proofs.Document.View
import Flowchart.Proofs.Editor.Session
import Flowchart.Proofs.Export.Standing

/-! Sessions in which a document is drawn by hand, from texts and settings of finite numbers. Each
of its nodes has a place, and loses nothing when it is written and read unless it has no type. -/

namespace Flowchart

/-- An operation that draws: types and labels are texts, and settings are of finite numbers. -/
def Operation.IsDrawing : Operation → Prop
  | .addNode type label _ => (∃ text, type = .str text) ∧ ∃ text, label = .ofText? text
  | .updateNode _ patch label => patch.IsFinite ∧ ∃ text, label = .ofText? text
  | .removeNode _ | .removeEdge _ | .connect .. | .clear => True
  | _ => False

/-- An action that draws: types and labels are texts, and settings are objects of finite numbers. -/
def EditorAction.IsDrawing : EditorAction → Prop
  | .addNode type label _ => (∃ text, type = .str text) ∧ ∃ text, label = .ofText? text
  | .dropTool tool _ => ∃ text, tool = .str text
  | .update _ patch label =>
    (∃ members, patch = .obj members) ∧ patch.IsFinite ∧ ∃ text, label = .ofText? text
  | .connect .. | .removeNode _ | .removeEdge _ | .clear _ => True
  | _ => False

/-- Drawing brings in no document. -/
theorem Operation.IsDrawing.isEdit {operation : Operation} (drawing : operation.IsDrawing) :
    operation.IsEdit := by
  -- Only the replacement of the whole document is no edit, and it is no drawing either.
  cases operation with
  | replace document => exact drawing.elim
  | _ => trivial

/-- A node that was drawn has a place, and if it has a type it loses nothing in writing. -/
structure Node.Drawn (node : Node) : Prop where
  portable : node.type ≠ .str "" → node.Portable
  placed : ∀ axis ∈ ["x", "y"], ∃ number, Document.coordinate axis node = .ok number

namespace Node

/-- A fresh node has a place. -/
theorem fresh_drawn (settings : Settings) {id : String} (named : id ≠ "") (type : String)
    (label : Option String) (x y : Float) :
    (fresh settings (.str id) (.str type) (.ofText? label) x y).Drawn where
  -- A new node has two numbers for its position, and the rest is what new nodes have.
  portable typed := fresh_portable settings named (by simpa [fresh] using typed) label x y
  placed := by
    simp only [List.forall_mem_cons, Document.coordinate_eq_ok]
    exact ⟨⟨.float x, .float x, rfl, rfl⟩, ⟨.float y, .float y, rfl, rfl⟩, nofun⟩

/-- A node stays drawn when settings of finite numbers are merged into it. -/
theorem Drawn.update {node changed : Node} (drawn : node.Drawn) {patch : Json}
    (finite : patch.IsFinite) (label : Option String)
    (updated : node.update patch (.ofText? label) = .ok changed) : changed.Drawn where
  portable typed := by
    have type : changed.type = node.type :=
      congrArg (fun frame => frame.2.1) (update_frame updated)
    exact (drawn.portable (type ▸ typed)).update finite label updated
  placed := by
    obtain ⟨settings, members, -, -, rfl⟩ := update_eq_ok.mp updated
    -- A label has no say in where a node is.
    cases label <;> exact drawn.placed

end Node

namespace Workspace

/-- A workspace whose document was drawn by hand. -/
structure Drawn (space : Workspace) : Prop where
  sound : space.Sound
  nodes : ∀ node ∈ space.document.nodes, node.Drawn
  viewport : space.document.viewport = Document.homeViewport

/-- An empty document counts as drawn. -/
theorem Drawn.start {space : Workspace} (empty : space.document = .empty) : space.Drawn := by
  -- An empty document has no node to ask anything of.
  obtain ⟨document, settings, supply⟩ := space
  cases empty
  exact ⟨.start settings supply, nofun, rfl⟩

/-- What is drawn on is drawn. -/
theorem Drawn.after {space : Workspace} {operation : Operation} (drawn : space.Drawn)
    (drawing : operation.IsDrawing) : (space.after operation).Drawn := by
  -- A node that is there afterwards is fresh, was changed, or was there before.
  have step := space.after_step drawing.isEdit
  refine ⟨drawn.sound.step step, step.nodes_forall ?_ ?_ ?_ drawn.nodes, ?_⟩
  · rintro _ _ position x y rfl
    obtain ⟨⟨type, rfl⟩, label, rfl⟩ := drawing
    exact Node.fresh_drawn _ (space.supply.idAfter_ne_empty _) type label x y
  · rintro id patch _ old changed rfl merged before
    obtain ⟨finite, label, rfl⟩ := drawing
    exact before.update finite label merged
  · rintro id condition text old changed rfl
    exact drawing.elim
  · -- No operation moves the view.
    generalize space.after operation = next at step
    cases step <;> exact drawn.viewport

end Workspace

namespace EditorSession

/-- An action that draws comes to an operation that draws, or leaves the document as it is. -/
theorem after_drawing (session : EditorSession) {action : EditorAction}
    (drawing : action.IsDrawing) :
    (session.after action).editor.space = session.editor.space ∨
      ∃ operation : Operation, operation.IsDrawing ∧
        (session.after action).editor.space = session.editor.space.after operation := by
  -- Apart from clearing, which the host may call off, each way to draw is one operation.
  cases action with
  | addNode type label position =>
    exact .inr ⟨.addNode type label position, drawing, session.withEditor_addNode ..⟩
  | dropTool tool position =>
    exact .inr ⟨.addNode tool _ position, ⟨drawing, _, rfl⟩, session.withEditor_addNode ..⟩
  | connect source sourcePort target targetPort =>
    exact .inr ⟨.connect source sourcePort target targetPort, trivial, session.connect_space ..⟩
  | removeNode node => exact .inr ⟨.removeNode node, trivial, rfl⟩
  | removeEdge edge => exact .inr ⟨.removeEdge edge, trivial, rfl⟩
  | update node patch label =>
    exact .inr ⟨.updateNode node patch label, drawing.2, session.update_space ..⟩
  | clear ask =>
    have cleared := session.clear_space ask
    split at cleared
    · exact .inr ⟨.clear, trivial, cleared⟩
    · exact .inl cleared
  | _ => exact drawing.elim

/-- A session of drawing that starts with an empty document draws one. -/
theorem run_drawn {actions : List EditorAction} (each : ∀ action ∈ actions, action.IsDrawing)
    {session : EditorSession} (drawn : session.editor.space.Drawn) :
    (session.run actions).editor.space.Drawn := by
  -- By induction on the actions, each of which draws on or leaves the document alone.
  induction actions generalizing session with
  | nil => exact drawn
  | cons action rest ih =>
    obtain ⟨first, later⟩ := List.forall_mem_cons.mp each
    rw [run_cons]
    refine ih later ?_
    obtain same | ⟨operation, drawing, made⟩ := session.after_drawing first
    · exact same ▸ drawn
    · exact made ▸ drawn.after drawing

end EditorSession

end Flowchart
