import Flowchart.Proofs.Document.Linked
import Flowchart.Proofs.Editor.Session
import Flowchart.Proofs.Payload.Replay

/-! Edges that lead from a node back to itself, in an editor that forbids them: nobody can draw one,
and an import brings in all that its document has. -/

namespace Flowchart

/-- Nodes are named by texts, and where nodes must not feed themselves only given edges do. -/
structure Workspace.LoopsAmong (given : Edge → Prop) (space : Workspace) : Prop where
  forbidden : space.settings.allowSelfLoops = false
  texts : ∀ node ∈ space.document.nodes, ∃ text, node.id = .str text
  loops : ∀ edge ∈ space.document.edges, edge.source = edge.target → given edge

namespace Workspace.LoopsAmong

variable {given : Edge → Prop} {space next : Workspace}

/-- No operation on a document draws an edge from a node to itself. -/
theorem step {operation : Operation} (among : space.LoopsAmong given)
    (step : space.Step operation next) : next.LoopsAmong given where
  forbidden := step.settings_eq ▸ among.forbidden
  texts := by
    refine step.nodes_forall ?_ ?_ ?_ among.texts
    · exact fun _ _ _ _ _ _ => ⟨_, rfl⟩
    · intro _ _ _ old changed _ merged named
      rwa [show changed.id = old.id from congrArg Prod.fst (Node.update_frame merged)]
    · intro _ _ _ old changed _ stored named
      rwa [show changed.id = old.id from congrArg Prod.fst (Node.withCondition_frame stored)]
  loops edge member same := by
    -- An edge that a step has made has passed the rule against loops.
    rcases step.edge_mem member with old | ⟨joins, allowed⟩
    · exact among.loops edge old same
    · have apart := allowed.resolve_left (by simp [among.forbidden])
      exact absurd same (joins.source_ne_target among.texts apart)

/-- An imported document brings in no other edges from a node to itself than it has. -/
theorem imported (among : space.LoopsAmong given) {source : ImportSource} {document : Document}
    (read : source.document = .ok document) (brought : ∀ edge ∈ document.edges, given edge)
    (viewport : Json.Members) :
    (space.withDocument { document with viewport }).LoopsAmong given where
  -- Every edge is one that was brought in, so none is left to ask about.
  forbidden := among.forbidden
  texts node member := ((ImportSource.document_linked read).2 node member).named
  loops edge member _ := brought edge member

end Workspace.LoopsAmong

namespace EditorSession

/-- In an editor that forbids edges from a node to itself, those that there are after a run of
actions came with the documents that the run imported. -/
theorem run_loops {session : EditorSession} (empty : session.editor.document = .empty)
    (forbidden : session.editor.settings.allowSelfLoops = false) (actions : List EditorAction) :
    ∀ edge ∈ (session.run actions).editor.document.edges, edge.source = edge.target →
      ∃ action ∈ actions, ∃ source document, action.source? = some source ∧
        source.document = .ok document ∧ edge ∈ document.edges := by
  let given (edge : Edge) : Prop :=
    ∃ action ∈ actions, ∃ source document, action.source? = some source ∧
      source.document = .ok document ∧ edge ∈ document.edges
  -- An empty document has no loops, and then only imports are not held to the rule.
  have fresh : session.editor.space.LoopsAmong given := by
    have nothing : session.editor.space.document = .empty := empty
    exact ⟨forbidden, by simp [nothing, Document.empty], by simp [nothing, Document.empty]⟩
  refine (run_keeps ?_ fresh).loops
  intro action listed session next effect among
  -- An edit keeps to the rule, a view changes no edge, and an import is among the given actions.
  cases effect with
  | unchanged same => exact same ▸ among
  | edited operation asked made =>
    rw [made]
    exact among.step (Workspace.after_step _ (isEdit_of_operation? asked))
  | viewed viewport moved =>
    rw [moved]
    exact ⟨among.forbidden, among.texts, among.loops⟩
  | imported source document viewport named read placed =>
    rw [placed]
    exact among.imported read
      (fun edge member => ⟨action, listed, source, document, named, read, member⟩) viewport

/-- An editor that forbids edges from a node to itself, with nothing in it yet. -/
def strict : EditorSession where
  editor :=
    { tools := [], properties := [], catalog := .ofList [], host := none, inlineForms := false
      options := .nowhere
      space := .start { Settings.default with allowSelfLoops := false } (.numbered []) }
  forms := []

/-- An import, and then an attempt to lead the start back to itself. -/
def importing : List EditorAction :=
  [.importFrom (.value Payload.askFirst.toJson),
    .connect (.str "a") (.str "out") (.str "a") (.str "in")]

/-- Every edge from a node to itself is one of those that were imported. -/
theorem importing_loops :
    strict.editor.document = .empty ∧ strict.editor.settings.allowSelfLoops = false ∧
      ∀ edge ∈ (strict.run importing).editor.document.edges, edge.source = edge.target →
        edge ∈ Payload.askFirst.toDocument.edges := by
  have empty : strict.editor.document = .empty := rfl
  have forbidden : strict.editor.settings.allowSelfLoops = false := rfl
  refine ⟨empty, forbidden, fun edge member same => ?_⟩
  -- Of the two actions only the first is an import.
  obtain ⟨action, listed, source, document, named, read, brought⟩ :=
    run_loops empty forbidden importing edge member same
  simp only [importing, List.mem_cons, List.not_mem_nil, or_false] at listed
  obtain rfl | rfl := listed
  · cases named
    cases read
    exact brought
  · cases named

/-- An import brings an edge from a node to itself into an editor that forbids such edges. -/
theorem importing_brings_loop :
    strict.editor.settings.allowSelfLoops = false ∧
      ∃ edge ∈ (strict.run [.importFrom (.value Payload.askFirst.toJson)]).editor.document.edges,
        edge.source = edge.target := by
  have read : ImportSource.document (.value Payload.askFirst.toJson) =
      .ok Payload.askFirst.toDocument := by rfl
  obtain ⟨viewport, placed⟩ := strict.editor.importFrom_editor read
  refine ⟨rfl, ⟨.str "second", .str "b", .str "yes", .str "b", .str "enter"⟩, ?_, rfl⟩
  -- The edges after the import are those of the payload, and one of them is a loop.
  have edges : (strict.run [.importFrom (.value Payload.askFirst.toJson)]).editor.document.edges =
      Payload.askFirst.toDocument.edges := by
    simp only [run, List.foldl_cons, List.foldl_nil, after, placed]
    rfl
  rw [edges]
  decide

end EditorSession

end Flowchart
