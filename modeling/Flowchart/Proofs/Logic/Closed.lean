import Mathlib.Data.List.Find
import Flowchart.Proofs.Logic.Steps
import Flowchart.Proofs.Payload.Replay

/-! The logic of a linked document is closed: it has one step for each node, its links lead to steps
it has, and it starts at a step that no link leads to. -/

namespace Flowchart

/-- Logic stands for a document on its own: it has the steps of the nodes and refers to no
others. -/
structure Logic.ClosedOver (logic : Logic) (document : Document) : Prop where
  /-- There is one step for each node, in document order, with its id and its type. -/
  steps : logic.steps.map (fun step => (Json.str step.id, Json.str step.type)) =
    document.nodes.map fun node => (node.id, node.type)
  /-- Every link is the id of exactly one step. -/
  links : ∀ step ∈ logic.steps, ∀ link ∈ step.links, (logic.steps.map LogicStep.id).count link = 1
  /-- A branch is linked through its outcomes alone. -/
  branches : ∀ step ∈ logic.steps, .str step.type = branchType → step.next = none
  /-- Any other step is linked through its one output. -/
  others : ∀ step ∈ logic.steps, .str step.type ≠ branchType →
    step.nextTrue = none ∧ step.nextFalse = none
  /-- The start is the id of exactly one step. -/
  startStep : ∀ start, logic.start = some start → (logic.steps.map LogicStep.id).count start = 1
  /-- The start is the first node that no edge points at. -/
  start : logic.start.map Json.str =
    (document.nodes.find? fun node => ∀ edge ∈ document.edges, edge.target ≠ node.id).map Node.id
  /-- There is no start exactly if an edge points at every node. -/
  startless : logic.start = none ↔
    ∀ node ∈ document.nodes, ∃ edge ∈ document.edges, edge.target = node.id
  /-- No link leads back to the start. -/
  untouched : ∀ start, logic.start = some start → ∀ step ∈ logic.steps, start ∉ step.links

namespace Document

variable {document : Document} {logic : Logic}

/-- In a typed document no edge points at an unaimed node, and at every other node one does. -/
theorem mem_unaimed_iff (typed : document.Typed) {node : Node} :
    node ∈ document.unaimed ↔
      node ∈ document.nodes ∧ ∀ edge ∈ document.edges, edge.target ≠ node.id := by
  rw [unaimed, List.mem_filter, and_congr_right_iff]
  intro member
  -- The ids are texts, and texts mean the same only if they are equal.
  obtain ⟨id, named⟩ := (typed node member).named
  simp only [named, Bool.not_eq_true', ← Bool.not_eq_true, List.any_eq_true, Json.isSame_str,
    not_exists, not_and, ne_eq]

/-- In a typed document the first unaimed node is the first node that no edge points at. -/
theorem head?_unaimed (typed : document.Typed) :
    document.unaimed.head? =
      document.nodes.find? fun node => ∀ edge ∈ document.edges, edge.target ≠ node.id := by
  rw [unaimed, List.head?_filter]
  refine List.find?_congr fun node member => ?_
  -- The filter keeps a node exactly if the node is unaimed.
  have kept : node ∈ document.unaimed ↔ _ := mem_unaimed_iff typed
  rw [unaimed, List.mem_filter, and_congr_right_iff] at kept
  rw [Bool.eq_iff_iff, kept member, decide_eq_true_iff]

/-- Where parts are of the declared kinds the roots are found. -/
theorem Declared.roots_eq (declared : document.Declared) :
    document.roots = .ok document.unaimed := declared.keyed.roots_eq

/-- In a linked document the roots are found if its nodes are typed. -/
theorem roots_eq (linked : document.Linked) (typed : document.Typed) :
    document.roots = .ok document.unaimed := (linked.declared typed).roots_eq

/-- A document comes to the steps of its nodes, in their order, and to a start at its first root. -/
theorem compile_eq_ok :
    document.compile = .ok logic ↔
      List.Forall₂ document.Renders document.nodes logic.steps ∧
        ∃ roots, document.roots = .ok roots ∧
          logic.start = roots.head?.bind fun node => node.id.text? := by
  cases logic
  simp only [compile, bind_eq_ok, mapM_eq_ok, compileNode_eq_ok, Pure.pure, Except.pure,
    Except.ok.injEq, Logic.mk.injEq]
  -- Steps and start are found apart from each other, and neither may fail.
  constructor
  · rintro ⟨steps, rendered, roots, found, rfl, rfl⟩
    exact ⟨rendered, roots, found, rfl⟩
  · rintro ⟨rendered, roots, found, rfl⟩
    exact ⟨_, rendered, roots, found, rfl, rfl⟩

/-- What comes to logic is typed. -/
theorem typed_of_compile (compiled : document.compile = .ok logic) : document.Typed := by
  -- A node that comes to a step has parts of the declared kinds.
  intro node member
  obtain ⟨step, -, renders⟩ := exists_of_forall₂_left (compile_eq_ok.mp compiled).1 member
  exact renders.typed

/-- A document of parts of the declared kinds comes to logic. -/
theorem Declared.exists_compile (declared : document.Declared) :
    ∃ logic, document.compile = .ok logic := by
  -- Each node comes to a step on its own.
  have each (node : Node) (member : node ∈ document.nodes) :
      ∃ step, document.compileNode node = .ok step := by
    obtain ⟨step, renders⟩ := declared.exists_renders member
    exact ⟨step, compileNode_eq_ok.mpr renders⟩
  obtain ⟨steps, rendered⟩ := exists_mapM_eq_ok.mpr each
  simp only [mapM_eq_ok, compileNode_eq_ok] at rendered
  let start := document.unaimed.head?.bind fun node => node.id.text?
  exact ⟨⟨start, steps⟩, compile_eq_ok.mpr ⟨rendered, document.unaimed, declared.roots_eq, rfl⟩⟩

/-- A linked document comes to logic exactly if it is typed. -/
theorem compile_isOk_iff (linked : document.Linked) :
    (∃ logic, document.compile = .ok logic) ↔ document.Typed := by
  -- Linked edges have texts for targets as soon as the nodes are typed.
  constructor
  · rintro ⟨logic, compiled⟩
    exact typed_of_compile compiled
  · exact fun typed => (linked.declared typed).exists_compile

/-- The start of the logic of a linked document is its first unaimed node. -/
theorem start_of_compile (linked : document.Linked) (compiled : document.compile = .ok logic) :
    logic.start.map Json.str = document.unaimed.head?.map Node.id := by
  have typed := typed_of_compile compiled
  obtain ⟨-, roots, found, started⟩ := compile_eq_ok.mp compiled
  rw [roots_eq linked typed, Except.ok.injEq] at found
  subst found
  rw [started]
  cases first : document.unaimed.head? with
  | none => rfl
  | some node =>
    -- The start is told as a text, and it is the text of the first node that nothing aims at.
    have listed := (mem_unaimed_iff typed).mp (List.mem_of_mem_head? first)
    obtain ⟨id, named⟩ := (typed node listed.1).named
    simp [named, Json.text?]

/-- The steps of the logic of a document have the ids and the types of its nodes, in their
order. -/
theorem steps_of_compile (compiled : document.compile = .ok logic) :
    logic.steps.map (fun step => (Json.str step.id, Json.str step.type)) =
      document.nodes.map fun node => (node.id, node.type) := by
  -- Steps and nodes go side by side, and each step has the id and the type of its node.
  rw [← List.forall₂_eq_eq_eq, List.forall₂_map_left_iff, List.forall₂_map_right_iff]
  have renders := (compile_eq_ok.mp compiled).1
  exact (renders.imp fun _ _ each => Prod.ext each.id.symm each.type.symm).flip

/-- Under every id the first step is the one that the first node comes to; there is no step where
there is no node. -/
theorem step?_rel_of_compile (compiled : document.compile = .ok logic) (id : String) :
    Option.Rel document.Renders (document.node? (.str id)) (logic.step? id) := by
  -- Both lookups take the first of the id, in lists that go side by side.
  refine find?_rel_of_forall₂ (compile_eq_ok.mp compiled).1 fun node step renders => ?_
  rw [renders.id, Json.str_equals_str]

/-- The step that is found under an id is the one that the node under the id comes to. -/
theorem step?_of_compile (compiled : document.compile = .ok logic) {id : String} {node : Node}
    (found : document.node? (.str id) = some node) :
    ∃ step, logic.step? id = some step ∧ document.Renders node step := by
  have searched := step?_rel_of_compile compiled id
  rw [found] at searched
  -- The search among the steps goes along with the one among the nodes.
  cases held : logic.step? id with
  | none =>
    rw [held] at searched
    cases searched
  | some step =>
    rw [held] at searched
    cases searched with
    | some renders => exact ⟨step, rfl, renders⟩

/-- The ids of the steps are those of the nodes. -/
theorem stepIds_of_compile (compiled : document.compile = .ok logic) :
    logic.steps.map (fun step => Json.str step.id) = document.nodes.map Node.id := by
  -- Of ids and types together the ids are the first halves.
  have firsts := congrArg (List.map Prod.fst) (steps_of_compile compiled)
  rw [List.map_map, List.map_map] at firsts
  exact firsts

/-- Where no two nodes share an id, no two steps do. -/
theorem stepIds_nodup (distinct : (document.nodes.map Node.id).Nodup)
    (compiled : document.compile = .ok logic) : (logic.steps.map LogicStep.id).Nodup := by
  -- The ids of the steps are those of the nodes, read as texts.
  rw [← stepIds_of_compile compiled] at distinct
  exact List.Nodup.of_map Json.str (by rwa [List.map_map])

/-- In the logic of a linked document, the id of a node is the id of exactly one step. -/
theorem count_stepIds (linked : document.Linked) (compiled : document.compile = .ok logic)
    {id : String} (member : .str id ∈ document.nodes.map Node.id) :
    (logic.steps.map LogicStep.id).count id = 1 := by
  rw [← stepIds_of_compile compiled] at member
  obtain ⟨step, listed, spelled⟩ := List.mem_map.mp member
  rw [Json.str.injEq] at spelled
  -- Steps have the ids of nodes, and those are distinct.
  apply List.count_eq_one_of_mem
  · exact stepIds_nodup linked.distinct compiled
  · exact List.mem_map.mpr ⟨step, listed, spelled⟩

/-- The logic of a linked document is closed. -/
theorem compile_closedOver (linked : document.Linked) (compiled : document.compile = .ok logic) :
    logic.ClosedOver document := by
  have typed := typed_of_compile compiled
  have rendered := (compile_eq_ok.mp compiled).1
  have started := start_of_compile linked compiled
  -- A start is the id of an unaimed node.
  have unaimedStart {start : String} (same : logic.start = some start) :
      ∃ node ∈ document.unaimed, node.id = .str start := by
    rw [same, Option.map_some, eq_comm, Option.map_eq_some_iff] at started
    obtain ⟨node, first, named⟩ := started
    exact ⟨node, List.mem_of_mem_head? first, named⟩
  constructor
  case steps => exact steps_of_compile compiled
  case links =>
    intro step listed link member
    obtain ⟨node, -, renders⟩ := exists_of_forall₂_right rendered listed
    -- A link comes of an edge, and the edge ends at a node.
    obtain ⟨edge, drawn, -, target⟩ := renders.edge_of_link member
    exact count_stepIds linked compiled (target ▸ linked.enters edge drawn)
  case branches =>
    intro step listed branches
    obtain ⟨node, -, renders⟩ := exists_of_forall₂_right rendered listed
    exact renders.next_of_isBranch (by simpa [Node.isBranch, renders.type] using branches)
  case others =>
    intro step listed other
    obtain ⟨node, -, renders⟩ := exists_of_forall₂_right rendered listed
    exact renders.outcomes_of_not_isBranch (by simpa [Node.isBranch, renders.type] using other)
  case startStep =>
    intro start same
    obtain ⟨node, unaimed, named⟩ := unaimedStart same
    have listed := ((mem_unaimed_iff typed).mp unaimed).1
    exact count_stepIds linked compiled (List.mem_map.mpr ⟨node, listed, named⟩)
  case start => rw [started, head?_unaimed typed]
  case startless =>
    rw [head?_unaimed typed] at started
    rw [← Option.map_eq_none_iff (f := Json.str), started]
    simp
  case untouched =>
    intro start same step listed member
    -- A link to the start would come of an edge that aims at an unaimed node.
    obtain ⟨aimed, unaimed, named⟩ := unaimedStart same
    obtain ⟨node, -, renders⟩ := exists_of_forall₂_right rendered listed
    obtain ⟨edge, drawn, -, target⟩ := renders.edge_of_link member
    exact ((mem_unaimed_iff typed).mp unaimed).2 edge drawn (target.trans named.symm)

/-- A linked document comes to logic exactly if it is typed, and its logic is closed. Every import
brings a document that is linked and typed. Edits from an empty document on build a linked one,
which is typed if they are handed parts of the kinds they are declared with. -/
theorem compile_closed :
    (∀ document : Document, document.Linked →
      ((∃ logic, document.compile = .ok logic) ↔ document.Typed) ∧
        ∀ logic, document.compile = .ok logic → logic.ClosedOver document) ∧
    (∀ (source : ImportSource) (document : Document), source.document = .ok document →
      document.Linked ∧ document.Typed) ∧
    ∀ (settings : Settings) (supply : Supply) (operations : List Operation),
      ((∀ operation ∈ operations, operation.IsEdit) →
        ((Workspace.start settings supply).run operations).document.Linked) ∧
      ((∀ operation ∈ operations, operation.IsTyped) →
        ((Workspace.start settings supply).run operations).document.Typed) := by
  -- Linked is all that is asked of a document, and both imports and edits keep to it.
  refine ⟨fun document linked => ?_, fun source document => ImportSource.document_linked,
    fun settings supply operations => ?_⟩
  · exact ⟨compile_isOk_iff linked, fun logic => compile_closedOver linked⟩
  · exact ⟨fun edits => Workspace.run_linked edits settings supply,
      fun each => Workspace.run_typed each settings supply⟩

/-- A start and a branch that leads back to itself come to two steps. -/
theorem askFirst_closed :
    ∃ document logic, ImportSource.document (.value Payload.askFirst.toJson) = .ok document ∧
      document.Linked ∧ document.compile = .ok logic ∧ logic.start = some "a" ∧
      logic.steps.map LogicStep.links = [["b"], ["b"]] ∧ logic.ClosedOver document := by
  have imported : ImportSource.document (.value Payload.askFirst.toJson) =
      .ok Payload.askFirst.toDocument := by rfl
  -- The question leads back to itself, so its step has a link to itself.
  have compiled : Payload.askFirst.toDocument.compile = .ok ⟨some "a",
      [⟨"a", "start", none, [], some "b", none, none⟩,
        ⟨"b", "if", none, [], none, some "b", none⟩]⟩ := by rfl
  obtain ⟨closed, origin, -⟩ := compile_closed
  obtain ⟨linked, -⟩ := origin _ _ imported
  exact ⟨_, _, imported, linked, compiled, rfl, rfl, (closed _ linked).2 _ compiled⟩

end Document

end Flowchart
