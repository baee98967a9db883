import Flowchart.Proofs.Document.Coherence

/-! Where the nodes of a document come from: each was added under its id and with its type, and
whatever is done by hand afterwards leaves the document coherent. -/

namespace Flowchart

namespace Workspace

/-- The id and the type of the node that an operation adds, if it adds one. -/
def addition? (space : Workspace) (operation : Operation) : Option (Json × Json) :=
  match operation, space.perform operation with
  | .addNode type _ _, .ok (_, .added id) => some (.str id, type)
  | _, _ => none

/-- The ids and the types of the nodes that a run adds, in the order of the run. -/
def additions (space : Workspace) : List Operation → List (Json × Json)
  | [] => []
  | operation :: rest =>
    (space.addition? operation).toList ++ (space.after operation).additions rest

/-- A step that adds no node leaves the frames of nodes alone. -/
theorem Step.frame_mem {space next : Workspace} {operation : Operation} {node : Node}
    (step : space.Step operation next)
    (other : ∀ type label position, operation ≠ .addNode type label position)
    (member : node ∈ next.document.nodes) :
    ∃ old ∈ space.document.nodes, old.frame = node.frame := by
  -- A node that is put in the place of another one has its frame.
  have changedWithin {id : Json} {old changed : Node}
      (found : space.document.node? id = some old) (kept : changed.frame = old.frame)
      (listed : node ∈ Document.replaceFirst id changed space.document.nodes) :
      ∃ before ∈ space.document.nodes, before.frame = node.frame := by
    rcases Document.mem_replaceFirst listed with rfl | rest
    · exact ⟨old, Document.node?_mem found, kept.symm⟩
    · exact ⟨node, rest, rfl⟩
  cases step with
  | unchanged => exact ⟨node, member, rfl⟩
  | added type label position => exact absurd rfl (other type label position)
  | updated found merged => exact changedWithin found (Node.update_frame merged) member
  | conditioned found stored => exact changedWithin found (Node.withCondition_frame stored) member
  | nodeRemoved id => exact ⟨node, List.mem_of_mem_filter member, rfl⟩
  | edgeRemoved id => exact ⟨node, member, rfl⟩
  | connected => exact ⟨node, member, rfl⟩
  | cleared => cases member

/-- Every node after an operation was there before it, or it is the one that was added. -/
theorem after_node {space : Workspace} {operation : Operation} (edit : operation.IsEdit)
    {node : Node} (member : node ∈ (space.after operation).document.nodes) :
    (∃ old ∈ space.document.nodes, old.frame = node.frame) ∨
      space.addition? operation = some (node.id, node.type) := by
  -- Only an addition brings a node whose frame is new, and it fails or adds that one node.
  cases operation with
  | addNode type label position =>
    cases outcome : space.addNode type label position with
    | error fault =>
      have refused : space.after (.addNode type label position) = space := by
        simp [after, perform, outcome, Bind.bind, Except.bind]
      rw [refused] at member
      exact .inl ⟨node, member, rfl⟩
    | ok made =>
      obtain ⟨x, y, randoms, id, same⟩ := addNode_eq_ok outcome
      have accepted : space.after (.addNode type label position) = made.1 := by
        simp [after, perform, outcome, Bind.bind, Except.bind, Pure.pure, Except.pure]
      rw [accepted, same] at member
      -- The new node stands behind the old ones, and it is what the addition told.
      rcases List.mem_append.mp member with old | new
      · exact .inl ⟨node, old, rfl⟩
      · right
        rw [List.mem_singleton.mp new]
        simp only [addition?, perform, outcome, Bind.bind, Except.bind, Pure.pure, Except.pure, id]
        rfl
  | _ => exact .inl ((space.after_step edit).frame_mem (by simp) member)

/-- A run adds every node that was not there when it started. -/
theorem run_node {operations : List Operation}
    (edits : ∀ operation ∈ operations, operation.IsEdit) {space : Workspace} {node : Node}
    (member : node ∈ (space.run operations).document.nodes) :
    (∃ old ∈ space.document.nodes, old.frame = node.frame) ∨
      (node.id, node.type) ∈ space.additions operations := by
  -- The node is followed back from the end of the run to its first operation.
  induction operations generalizing space with
  | nil => exact .inl ⟨node, member, rfl⟩
  | cons operation rest ih =>
    have edit := edits operation List.mem_cons_self
    rw [additions, List.mem_append, Option.mem_toList]
    rcases ih (fun later listed => edits later (List.mem_cons_of_mem _ listed)) member with
      ⟨between, listed, same⟩ | later
    · have ids : between.id = node.id := congrArg Prod.fst same
      have types : between.type = node.type := congrArg (fun frame => frame.2.1) same
      rcases after_node edit listed with ⟨old, first, kept⟩ | added
      · exact .inl ⟨old, first, kept.trans same⟩
      · exact .inr (.inl (by rw [added, ids, types]))
    · exact .inr (.inr later)

/-- Ids are drawn in one order from one source, whatever is done. -/
theorem after_supply (space : Workspace) {operation : Operation} (edit : operation.IsEdit) :
    (space.after operation).supply.idAfter = space.supply.idAfter ∧
      space.supply.issued ≤ (space.after operation).supply.issued := by
  have step := space.after_step edit
  generalize space.after operation = next at step
  -- Ids are drawn by additions and by connections that are made, one at a time.
  cases step with
  | added => exact ⟨rfl, Nat.le_succ _⟩
  | connected => exact ⟨rfl, Nat.le_succ _⟩
  | _ => exact ⟨rfl, Nat.le_refl _⟩

/-- A node is added under the next id, which is drawn for it. -/
theorem addition?_eq_some {space : Workspace} {operation : Operation} {id type : Json}
    (added : space.addition? operation = some (id, type)) :
    id = space.nextId ∧
      (space.after operation).supply.issued = space.supply.issued + 1 := by
  -- An addition that fails draws no id, and no other operation adds a node.
  cases operation with
  | addNode given label position =>
    cases outcome : space.addNode given label position with
    | error fault => simp [addition?, perform, outcome, Bind.bind, Except.bind] at added
    | ok made =>
      obtain ⟨x, y, randoms, drawn, same⟩ := addNode_eq_ok outcome
      simp only [addition?, perform, outcome, Bind.bind, Except.bind, Pure.pure, Except.pure,
        Option.some.injEq, Prod.mk.injEq] at added
      refine ⟨added.1.symm.trans drawn, ?_⟩
      simp only [after, perform, outcome, Bind.bind, Except.bind, Pure.pure, Except.pure, same]
      rfl
  | _ => simp [addition?] at added

/-- Nodes are added under ids that are drawn from now on. -/
theorem additions_drawn {operations : List Operation}
    (edits : ∀ operation ∈ operations, operation.IsEdit) {space : Workspace} {id type : Json}
    (member : (id, type) ∈ space.additions operations) :
    ∃ later ≥ space.supply.issued, id = .str (space.supply.idAfter later) := by
  -- Ids are told in the order in which they are drawn, so those of the rest are drawn later.
  induction operations generalizing space with
  | nil => cases member
  | cons operation rest ih =>
    have edit := edits operation List.mem_cons_self
    rw [additions, List.mem_append, Option.mem_toList] at member
    rcases member with now | afterwards
    · exact ⟨space.supply.issued, Nat.le_refl _, (addition?_eq_some now).1⟩
    · obtain ⟨later, bound, same⟩ :=
        ih (fun next listed => edits next (List.mem_cons_of_mem _ listed)) afterwards
      obtain ⟨source, grown⟩ := space.after_supply edit
      exact ⟨later, Nat.le_trans grown bound, source ▸ same⟩

/-- No id is given to two nodes of a run. -/
theorem additions_nodup {operations : List Operation}
    (edits : ∀ operation ∈ operations, operation.IsEdit) (space : Workspace) :
    ((space.additions operations).map Prod.fst).Nodup := by
  -- All that is added after the first operation has ids that are drawn after its own.
  induction operations generalizing space with
  | nil => exact List.nodup_nil
  | cons operation rest ih =>
    have edit := edits operation List.mem_cons_self
    have others : ∀ later ∈ rest, later.IsEdit := fun later listed =>
      edits later (List.mem_cons_of_mem _ listed)
    have tail := ih others (space.after operation)
    cases added : space.addition? operation with
    | none => simpa [additions, added] using tail
    | some pair =>
      -- What is drawn later differs from what was drawn for the first node.
      obtain ⟨first, grown⟩ := @addition?_eq_some space operation pair.1 pair.2 added
      have new : pair.1 ∉ ((space.after operation).additions rest).map Prod.fst := by
        intro listed
        obtain ⟨again, member, same⟩ := List.mem_map.mp listed
        obtain ⟨later, bound, drawn⟩ := additions_drawn others member
        rw [same, first, (space.after_supply edit).1] at drawn
        have equal := space.supply.idAfter_inj (Json.str.inj drawn)
        omega
      simpa [additions, added] using ⟨by simpa using new, tail⟩

/-- Two nodes and a connection, which is refused when it is asked for again. -/
def connectingTwice : List Operation :=
  [.addNode (.str "start") .null .null, .addNode (.str "if") (.str "Ask") .null,
    .connect (.str "u1") (.str "out") (.str "u2") (.str "in"),
    .connect (.str "u1") (.str "out") (.str "u2") (.str "in")]

/-- Whatever is done by hand, starting with an empty document: its parts fit together at all times,
and every node has the type that it was added with and the ports of that type. -/
theorem run_coherent {operations : List Operation}
    (edits : ∀ operation ∈ operations, operation.IsEdit) (settings : Settings) (supply : Supply) :
    ((start settings supply).run operations).document.Coherent settings.allowSelfLoops ∧
      (((start settings supply).additions operations).map Prod.fst).Nodup ∧
      ∀ node ∈ ((start settings supply).run operations).document.nodes,
        (node.id, node.type) ∈ (start settings supply).additions operations := by
  obtain ⟨sound, same⟩ := run_sound edits settings supply
  have coherent := sound.coherent
  rw [same] at coherent
  refine ⟨coherent, additions_nodup edits _, ?_⟩
  intro node member
  -- The run starts without nodes, so each node at the end was added on the way.
  rcases run_node edits member with ⟨old, before, _⟩ | added
  · cases before
  · exact added

/-- Asking twice for a connection leaves a coherent document with one edge. -/
theorem connectingTwice_coherent :
    (∀ operation ∈ connectingTwice, operation.IsEdit) ∧
      ((start default (.numbered [])).run connectingTwice).document.edges.length = 1 ∧
      ((start default (.numbered [])).run connectingTwice).document.Coherent true ∧
      (((start default (.numbered [])).additions connectingTwice).map Prod.fst).Nodup ∧
      ∀ node ∈ ((start default (.numbered [])).run connectingTwice).document.nodes,
        (node.id, node.type) ∈ (start default (.numbered [])).additions connectingTwice := by
  -- The second request for the same connection is refused, so one edge is left.
  have edits : ∀ operation ∈ connectingTwice, operation.IsEdit := by
    simp [connectingTwice, Operation.IsEdit]
  exact ⟨edits, by decide +kernel, run_coherent edits default (.numbered [])⟩

end Workspace

end Flowchart
