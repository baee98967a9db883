import Mathlib.Data.List.Nodup
import Flowchart.Proofs.Document.Steps

/-! Documents that are built by hand stay coherent: ids are distinct, edges run between ports that
exist and obey the rules for connections, and nodes keep the types and ports they were made with. -/

namespace Flowchart

/-- The parts of a document fit together. -/
structure Document.Coherent (allowSelfLoops : Bool) (document : Document) : Prop where
  /-- No two nodes share an id. -/
  nodeIds : (document.nodes.map Node.id).Nodup
  /-- No two edges share an id. -/
  edgeIds : (document.edges.map Edge.id).Nodup
  /-- Every edge runs between nodes of the document. -/
  ends : ∀ edge ∈ document.edges,
    edge.source ∈ document.nodes.map Node.id ∧ edge.target ∈ document.nodes.map Node.id
  /-- Every edge leaves an output and enters an input. -/
  joins : ∀ edge ∈ document.edges, document.Joins edge
  /-- No two edges join the same ports. -/
  connections : (document.edges.map Edge.ends).Nodup
  /-- Where it is not allowed, no node feeds itself. -/
  loops : allowSelfLoops = false → ∀ edge ∈ document.edges, edge.source ≠ edge.target
  /-- Every node has the ports of its type. -/
  ports : ∀ node ∈ document.nodes, node.ports = defaultPorts node.type

namespace Document

/-- Nodes are told apart by texts. -/
structure Named (document : Document) : Prop where
  texts : ∀ node ∈ document.nodes, ∃ text, node.id = .str text
  distinct : (document.nodes.map Node.id).Nodup

/-- Where nodes are named, the node under an id is the one that has it. -/
theorem Named.node?_eq_some {document : Document} (named : document.Named) {id : Json}
    {node : Node} : document.node? id = some node ↔ node ∈ document.nodes ∧ node.id = id := by
  constructor
  · intro found
    have member := node?_mem found
    obtain ⟨text, spelled⟩ := named.texts node member
    have same := node?_equals found
    rw [spelled, Json.str_equals] at same
    exact ⟨member, spelled.trans same.symm⟩
  · rintro ⟨member, rfl⟩
    obtain ⟨text, spelled⟩ := named.texts node member
    -- Some node is found under the id, and no other than this one has it.
    cases found : document.node? node.id with
    | none =>
      have absent := List.find?_eq_none.mp found node member
      simp [spelled] at absent
    | some first =>
      have same := node?_equals found
      rw [spelled, Json.equals_str, ← spelled] at same
      have unique := List.inj_on_of_nodup_map named.distinct (node?_mem found) member same
      rw [unique]

/-- Where nodes are named and have the ports of their types, a port that is found at a node is one of
those that nodes of its type have. -/
theorem Named.port?_offered {document : Document} (named : document.Named)
    (ports : ∀ node ∈ document.nodes, node.ports = defaultPorts node.type) {node : Node}
    (member : node ∈ document.nodes) {id : Json} {port : Port}
    (found : document.port? node.id id = some port) : port.group ∈ defaultGroups node.type := by
  -- The node that is looked through is the node itself.
  obtain ⟨holder, located, held⟩ := port?_eq_some.mp found
  rw [named.node?_eq_some.mpr ⟨member, rfl⟩, Option.some.injEq] at located
  subst located
  have among := List.mem_of_find?_eq_some held
  rw [ports node member] at among
  obtain ⟨group, offered, rfl⟩ := List.mem_map.mp among
  exact offered

/-- The ends of an edge between ports are ids of nodes. -/
theorem Joins.ends_mem {document : Document} (named : document.Named) {edge : Edge}
    (joins : document.Joins edge) :
    edge.source ∈ document.nodes.map Node.id ∧ edge.target ∈ document.nodes.map Node.id := by
  -- A port is found only in a node that is there.
  have held {node port : Json} {found : Port} (lookup : document.port? node port = some found) :
      node ∈ document.nodes.map Node.id := by
    obtain ⟨holder, located, _⟩ := port?_eq_some.mp lookup
    obtain ⟨member, same⟩ := named.node?_eq_some.mp located
    exact List.mem_map.mpr ⟨holder, member, same⟩
  obtain ⟨_, source, _⟩ := joins.leaves
  obtain ⟨_, target, _⟩ := joins.enters
  exact ⟨held source, held target⟩

/-- An edge runs between the same ports as long as the nodes at its ends are there. -/
theorem Joins.carry {before after : Document} (named : before.Named) (still : after.Named)
    {edge : Edge} (kept : ∀ node ∈ before.nodes,
      node.id = edge.source ∨ node.id = edge.target → node ∈ after.nodes)
    (joins : before.Joins edge) : after.Joins edge := by
  -- Both lookups find the node that has the id, before and after.
  have same {node port : Json} {found : Port} (ended : node = edge.source ∨ node = edge.target)
      (lookup : before.port? node port = some found) : after.port? node port = some found := by
    obtain ⟨holder, located, held⟩ := port?_eq_some.mp lookup
    obtain ⟨member, spelled⟩ := named.node?_eq_some.mp located
    have survives := kept holder member (by rwa [spelled])
    exact port?_eq_some.mpr ⟨holder, still.node?_eq_some.mpr ⟨survives, spelled⟩, held⟩
  obtain ⟨leaving, source, output⟩ := joins.leaves
  obtain ⟨entering, target, input⟩ := joins.enters
  exact ⟨⟨leaving, same (.inl rfl) source, output⟩, ⟨entering, same (.inr rfl) target, input⟩⟩

/-- An edge whose ends are told apart has two different ends, where ids are texts. -/
theorem Joins.source_ne_target {document : Document}
    (texts : ∀ node ∈ document.nodes, ∃ text, node.id = .str text) {edge : Edge}
    (joins : document.Joins edge) (apart : edge.source.equals edge.target = false) :
    edge.source ≠ edge.target := by
  -- The source is the text that the node found under it has, and texts equal themselves.
  intro same
  obtain ⟨_, found, _⟩ := joins.leaves
  obtain ⟨node, located, _⟩ := port?_eq_some.mp found
  obtain ⟨text, spelled⟩ := texts node (node?_mem located)
  have source := node?_equals located
  rw [spelled, Json.str_equals] at source
  rw [← same, source, Json.str_equals_str, beq_self_eq_true] at apart
  cases apart

/-- Where nodes are named, what is left to see to is the edges and the ports. -/
theorem Named.coherent {document : Document} {allowSelfLoops : Bool} (named : document.Named)
    (edgeIds : (document.edges.map Edge.id).Nodup)
    (joins : ∀ edge ∈ document.edges, document.Joins edge)
    (connections : (document.edges.map Edge.ends).Nodup)
    (loops : allowSelfLoops = false → ∀ edge ∈ document.edges, edge.source ≠ edge.target)
    (ports : ∀ node ∈ document.nodes, node.ports = defaultPorts node.type) :
    document.Coherent allowSelfLoops where
  -- That ends are there follows from the ports that edges join.
  nodeIds := named.distinct
  edgeIds := edgeIds
  ends edge member := (joins edge member).ends_mem named
  joins := joins
  connections := connections
  loops := loops
  ports := ports

end Document

namespace Workspace

/-- An id was drawn earlier. -/
def HasDrawn (space : Workspace) (id : Json) : Prop :=
  ∃ earlier < space.supply.issued, id = .str (space.supply.idAfter earlier)

/-- The next id is none of those drawn earlier. -/
theorem HasDrawn.ne_nextId {space : Workspace} {id : Json} (drawn : space.HasDrawn id) :
    id ≠ space.nextId := by
  -- An id that was drawn has a smaller number, and no two numbers share an id.
  obtain ⟨earlier, before, rfl⟩ := drawn
  intro same
  have again := space.supply.idAfter_inj (Json.str.inj same)
  omega

/-- What was drawn stays drawn. -/
theorem HasDrawn.later {space : Workspace} {id : Json} (randoms : List Float)
    (drawn : space.HasDrawn id) : (space.drawn randoms).HasDrawn id := by
  -- What was drawn before stays drawn when the supply moves on.
  obtain ⟨earlier, before, same⟩ := drawn
  exact ⟨earlier, Nat.lt_succ_of_lt before, same⟩

/-- The next id is drawn by drawing. -/
theorem hasDrawn_nextId (space : Workspace) (randoms : List Float) :
    (space.drawn randoms).HasDrawn space.nextId :=
  ⟨space.supply.issued, Nat.lt_succ_self _, rfl⟩

/-- What every step keeps: the document is coherent, and its ids come from the supply. -/
structure Sound (space : Workspace) : Prop where
  coherent : space.document.Coherent space.settings.allowSelfLoops
  nodesDrawn : ∀ node ∈ space.document.nodes, space.HasDrawn node.id
  edgesDrawn : ∀ edge ∈ space.document.edges, space.HasDrawn edge.id

namespace Sound

variable {space : Workspace}

/-- Ids that were drawn are texts. -/
theorem named (sound : space.Sound) : space.document.Named where
  -- Drawn ids are texts, and coherence keeps them apart.
  texts node member := by
    obtain ⟨earlier, _, same⟩ := sound.nodesDrawn node member
    exact ⟨_, same⟩
  distinct := sound.coherent.nodeIds

/-- An empty document is sound, whatever the supply. -/
theorem start (settings : Settings) (supply : Supply) :
    (Workspace.start settings supply).Sound where
  -- An empty document has nothing that could be wrong.
  coherent := by constructor <;> simp [Workspace.start, Document.empty]
  nodesDrawn := by simp [Workspace.start, Document.empty]
  edgesDrawn := by simp [Workspace.start, Document.empty]

/-- Nodes under ids that were drawn are named as long as their ids are distinct. -/
theorem named_of_drawn {document : Document}
    (drawn : ∀ node ∈ document.nodes, space.HasDrawn node.id)
    (distinct : (document.nodes.map Node.id).Nodup) : document.Named where
  -- Drawn ids are texts.
  texts node member := by
    obtain ⟨earlier, _, same⟩ := drawn node member
    exact ⟨_, same⟩
  distinct := distinct

/-- Adding a fresh node under the next id keeps a workspace sound. -/
theorem addNode (sound : space.Sound) (type label : Json) (x y : Float) (randoms : List Float) :
    ((space.drawn randoms).withDocument
      (space.document.addNode (.fresh space.settings space.nextId type label x y))).Sound := by
  let node := Node.fresh space.settings space.nextId type label x y
  have drawn : ∀ held ∈ (space.document.addNode node).nodes,
      (space.drawn randoms).HasDrawn held.id := by
    intro held member
    rcases List.mem_append.mp member with old | new
    · exact (sound.nodesDrawn held old).later randoms
    · rw [List.mem_singleton.mp new]
      exact space.hasDrawn_nextId randoms
  have distinct : ((space.document.addNode node).nodes.map Node.id).Nodup := by
    -- The next id is new to the document.
    have new : space.nextId ∉ space.document.nodes.map Node.id := by
      intro member
      obtain ⟨held, old, same⟩ := List.mem_map.mp member
      exact (sound.nodesDrawn held old).ne_nextId same
    simp only [Document.addNode, List.map_append, List.map_cons, List.map_nil]
    rw [← List.concat_eq_append]
    exact List.Nodup.concat new sound.coherent.nodeIds
  have named := named_of_drawn drawn distinct
  -- Edges keep their ports, since a node that is added hides no other.
  refine ⟨named.coherent sound.coherent.edgeIds ?_ sound.coherent.connections
    sound.coherent.loops ?_, drawn, ?_⟩
  · intro edge member
    exact (sound.coherent.joins edge member).carry sound.named named
      fun held old _ => List.mem_append.mpr (.inl old)
  · intro held member
    rcases List.mem_append.mp member with old | new
    · exact sound.coherent.ports held old
    · rw [List.mem_singleton.mp new]
      rfl
  · intro edge member
    exact (sound.edgesDrawn edge member).later randoms

/-- Changing a node within its frame keeps a workspace sound. -/
theorem changeNode (sound : space.Sound) {id : Json} {old changed : Node}
    (found : space.document.node? id = some old) (kept : changed.frame = old.frame) :
    (space.withDocument { space.document with
      nodes := Document.replaceFirst id changed space.document.nodes }).Sound := by
  -- All that the invariant says of nodes can be read off their frames.
  let after : Document := { space.document with
    nodes := Document.replaceFirst id changed space.document.nodes }
  have frames : after.nodes.map Node.frame = space.document.nodes.map Node.frame :=
    Document.replaceFirst_frames found kept
  have framed {held : Node} (member : held ∈ after.nodes) :
      ∃ before ∈ space.document.nodes, before.frame = held.frame := by
    have listed : held.frame ∈ after.nodes.map Node.frame := List.mem_map_of_mem member
    rw [frames] at listed
    exact List.mem_map.mp listed
  have drawn : ∀ held ∈ after.nodes, space.HasDrawn held.id := by
    intro held member
    obtain ⟨before, old, same⟩ := framed member
    have ids : before.id = held.id := congrArg Prod.fst same
    exact ids ▸ sound.nodesDrawn before old
  have ids : after.nodes.map Node.id = space.document.nodes.map Node.id := by
    have first := congrArg (List.map Prod.fst) frames
    rwa [List.map_map, List.map_map] at first
  have named := named_of_drawn drawn (ids ▸ sound.coherent.nodeIds)
  -- Ids, types and ports are as before, so ports are found where they were.
  refine ⟨named.coherent sound.coherent.edgeIds ?_ sound.coherent.connections
    sound.coherent.loops ?_, drawn, sound.edgesDrawn⟩
  · intro edge member
    exact (sound.coherent.joins edge member).congr frames.symm
  · intro held member
    obtain ⟨before, old, same⟩ := framed member
    have ports := sound.coherent.ports before old
    simp only [Node.frame, Prod.mk.injEq] at same
    rwa [same.2.1, same.2.2] at ports

/-- Removing nodes and edges keeps a workspace sound, if every edge that stays keeps its nodes. -/
theorem shrink (sound : space.Sound) {after : Document}
    (nodes : after.nodes.Sublist space.document.nodes)
    (edges : after.edges.Sublist space.document.edges)
    (held : ∀ edge ∈ after.edges, ∀ node ∈ space.document.nodes,
      node.id = edge.source ∨ node.id = edge.target → node ∈ after.nodes) :
    (space.withDocument after).Sound := by
  -- Fewer nodes and edges repeat nothing that was not repeated before.
  have drawn : ∀ node ∈ after.nodes, space.HasDrawn node.id := fun node member =>
    sound.nodesDrawn node (nodes.subset member)
  have named := named_of_drawn drawn (sound.coherent.nodeIds.sublist (nodes.map Node.id))
  refine ⟨named.coherent (sound.coherent.edgeIds.sublist (edges.map Edge.id)) ?_
    (sound.coherent.connections.sublist (edges.map Edge.ends)) ?_ ?_, drawn, ?_⟩
  -- An edge that stays needs its ports, so the nodes at its ends have to stay as well.
  · intro edge member
    exact (sound.coherent.joins edge (edges.subset member)).carry sound.named named
      (held edge member)
  · intro forbidden edge member
    exact sound.coherent.loops forbidden edge (edges.subset member)
  · intro node member
    exact sound.coherent.ports node (nodes.subset member)
  · intro edge member
    exact sound.edgesDrawn edge (edges.subset member)

/-- Removing a node with its edges keeps a workspace sound. -/
theorem removeNode (sound : space.Sound) (id : Json) :
    (space.withDocument (space.document.removeNode id)).Sound := by
  refine sound.shrink List.filter_sublist List.filter_sublist ?_
  intro edge member node old ended
  -- An edge stays only if neither of its ends equals the id.
  simp only [Document.removeNode, List.mem_filter, Bool.and_eq_true, Bool.not_eq_true'] at member
  rw [Document.removeNode, List.mem_filter, Bool.not_eq_true']
  refine ⟨old, ?_⟩
  rcases ended with source | target
  · exact source ▸ member.2.1
  · exact target ▸ member.2.2

/-- Adding an edge that obeys the rules keeps a workspace sound. -/
theorem connect (sound : space.Sound) {edge : Edge} (made : edge.id = space.nextId)
    (joins : space.document.Joins edge) (fresh : edge.ends ∉ space.document.edges.map Edge.ends)
    (loops : space.settings.allowSelfLoops = true ∨ edge.source.equals edge.target = false)
    (randoms : List Float) :
    ((space.drawn randoms).withDocument
      { space.document with edges := space.document.edges ++ [edge] }).Sound := by
  -- The next id is new to the edges.
  have new : edge.id ∉ space.document.edges.map Edge.id := by
    intro member
    obtain ⟨held, old, same⟩ := List.mem_map.mp member
    exact (sound.edgesDrawn held old).ne_nextId (same.trans made)
  let after : Document := { space.document with edges := space.document.edges ++ [edge] }
  have named : after.Named := ⟨sound.named.texts, sound.named.distinct⟩
  have frames : space.document.nodes.map Node.frame = after.nodes.map Node.frame := rfl
  -- What holds of the edges is checked for the old ones and for the new one.
  have edgeCases {held : Edge} (member : held ∈ space.document.edges ++ [edge]) :
      held ∈ space.document.edges ∨ held = edge := by
    simpa only [List.mem_append, List.mem_singleton] using member
  have appended {β : Type} (key : Edge → β)
      (distinct : (space.document.edges.map key).Nodup)
      (new : key edge ∉ space.document.edges.map key) :
      ((space.document.edges ++ [edge]).map key).Nodup := by
    rw [List.map_append, List.map_cons, List.map_nil, ← List.concat_eq_append]
    exact List.Nodup.concat new distinct
  refine ⟨named.coherent (appended Edge.id sound.coherent.edgeIds new) ?_
    (appended Edge.ends sound.coherent.connections fresh) ?_ sound.coherent.ports, ?_, ?_⟩
  · intro held member
    rcases edgeCases member with old | rfl
    · exact (sound.coherent.joins held old).congr frames
    · exact joins.congr frames
  · intro forbidden held member
    rcases edgeCases member with old | rfl
    · exact sound.coherent.loops forbidden held old
    -- Without self loops the rule has compared the two ids, and those are texts.
    · have refused : space.settings.allowSelfLoops ≠ true := fun allowed =>
        Bool.false_ne_true (forbidden.symm.trans allowed)
      exact joins.source_ne_target sound.named.texts (loops.resolve_left refused)
  · intro node member
    exact (sound.nodesDrawn node member).later randoms
  · intro held member
    rcases edgeCases member with old | rfl
    · exact (sound.edgesDrawn held old).later randoms
    · exact made ▸ space.hasDrawn_nextId randoms

/-- Every step keeps a workspace sound. -/
theorem step {next : Workspace} {operation : Operation} (sound : space.Sound)
    (step : space.Step operation next) : next.Sound := by
  -- Each kind of step adds a node or an edge, changes a node within its frame, or takes something
  -- away.
  cases step with
  | unchanged => exact sound
  | added type label position x y randoms => exact sound.addNode type label x y randoms
  | updated found merged => exact sound.changeNode found (Node.update_frame merged)
  | conditioned found stored => exact sound.changeNode found (Node.withCondition_frame stored)
  | nodeRemoved id => exact sound.removeNode id
  | edgeRemoved id =>
    exact sound.shrink (List.Sublist.refl _) List.filter_sublist fun _ _ _ old _ => old
  | connected made joins fresh loops =>
    exact sound.connect (congrArg Edge.id made) joins fresh loops space.supply.randoms
  | cleared =>
    exact sound.shrink (List.nil_sublist _) (List.nil_sublist _) fun _ none => nomatch none

end Sound

/-- The settings of a workspace never change. -/
theorem Step.settings_eq {space next : Workspace} {operation : Operation}
    (step : space.Step operation next) : next.settings = space.settings := by
  cases step <;> rfl

/-- Edits that start with an empty document leave the workspace sound and its settings alone. -/
theorem run_sound {operations : List Operation}
    (edits : ∀ operation ∈ operations, operation.IsEdit) (settings : Settings) (supply : Supply) :
    ((start settings supply).run operations).Sound ∧
      ((start settings supply).run operations).settings = settings := by
  -- The settings are part of what every step keeps, since the rule on loops is one of them.
  let Kept (space : Workspace) : Prop := space.Sound ∧ space.settings = settings
  have kept {space next : Workspace} {operation : Operation} (_ : operation.IsEdit)
      (step : space.Step operation next) (before : Kept space) : Kept next :=
    ⟨before.1.step step, step.settings_eq.trans before.2⟩
  exact run_keeps (fun _ edit => edit) kept edits ⟨.start settings supply, rfl⟩

end Workspace

end Flowchart
