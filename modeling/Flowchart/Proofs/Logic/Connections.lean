import Flowchart.Proofs.Logic.Reach

/-! The connections of a document and those of its logic. A link stands for the first edge that
leaves a node through a group of ports, so that the logic has every connection of the document but
those that an earlier edge stands in front of, and no others. -/

namespace Flowchart

/-- A way that leads from one node to another, and the group of ports that it leaves through. -/
structure Connection where
  source : Json
  group : PortGroup
  target : Json

/-- The connections that the links of a workflow make. -/
def Logic.connections (logic : Logic) : List Connection :=
  logic.steps.flatMap fun step => PortGroup.all.filterMap fun group =>
    (step.link? group).map fun target => ⟨.str step.id, group, .str target⟩

namespace Document

/-- The connections that the edges of a document make. -/
def connections (document : Document) : List Connection :=
  document.edges.filterMap fun edge => (document.group? edge).map fun group =>
    ⟨edge.source, group, edge.target⟩

/-- An edge leaves its node through a group, and no edge before it does. -/
def IsFirst (document : Document) (edge : Edge) (group : PortGroup) : Prop :=
  ∃ before after, document.edges = before ++ edge :: after ∧ document.group? edge = some group ∧
    ∀ earlier ∈ before, earlier.source = edge.source → document.group? earlier ≠ some group

/-- Nodes are told apart and have the ports of their types, and every edge leads from an output to
an input. -/
structure Wired (document : Document) : Prop where
  distinct : (document.nodes.map Node.id).Nodup
  ports : ∀ node ∈ document.nodes, node.ports = defaultPorts node.type
  joins : ∀ edge ∈ document.edges, document.Joins edge

end Document

/-- The links of a workflow are the connections of a document: nothing is lost but behind an earlier
edge, and nothing is made up. -/
structure Logic.Mirrors (logic : Logic) (document : Document) : Prop where
  /-- No two steps share an id. -/
  distinct : (logic.steps.map LogicStep.id).Nodup
  /-- Every edge is the link of its node through the group it leaves by, or stands behind an edge
  that leaves the node there, too. -/
  kept : ∀ before edge after, document.edges = before ++ edge :: after →
    ∃ group step, document.group? edge = some group ∧ group ≠ .input ∧
      step ∈ logic.steps ∧ .str step.id = edge.source ∧
      ((step.link? group).map Json.str = some edge.target ∨
        ∃ earlier ∈ before, earlier.source = edge.source ∧ document.group? earlier = some group)
  /-- Every link is the target of the first edge that leaves its node through its group. -/
  made : ∀ step ∈ logic.steps, ∀ group target, step.link? group = some target →
    ∃ edge, document.IsFirst edge group ∧ edge.source = .str step.id ∧ edge.target = .str target
  /-- If no two edges share a node and a group to leave by, all connections are got back. -/
  recovered : (∀ first ∈ document.edges, ∀ second ∈ document.edges, first.source = second.source →
      document.group? first = document.group? second → first = second) →
    ∀ connection, connection ∈ logic.connections ↔ connection ∈ document.connections

/-- A connection of a workflow is the link of a step. -/
theorem Logic.mem_connections {logic : Logic} {connection : Connection} :
    connection ∈ logic.connections ↔
      ∃ step ∈ logic.steps, .str step.id = connection.source ∧
        (step.link? connection.group).map Json.str = some connection.target := by
  have every (group : PortGroup) : group ∈ PortGroup.all := by cases group <;> decide
  simp only [connections, List.mem_flatMap, List.mem_filterMap, Option.map_eq_some_iff]
  -- Both sides name the step and the target that it is linked to.
  constructor
  · rintro ⟨step, listed, group, -, target, link, rfl⟩
    exact ⟨step, listed, rfl, target, link, rfl⟩
  · rintro ⟨step, listed, source, target, link, spelled⟩
    refine ⟨step, listed, connection.group, every _, target, link, ?_⟩
    rw [source, spelled]

/-- A connection of a document is made by an edge. -/
theorem Document.mem_connections {document : Document} {connection : Connection} :
    connection ∈ document.connections ↔
      ∃ edge ∈ document.edges, edge.source = connection.source ∧
        document.group? edge = some connection.group ∧ edge.target = connection.target := by
  simp only [connections, List.mem_filterMap, Option.map_eq_some_iff]
  -- An edge whose port is not there makes no connection.
  constructor
  · rintro ⟨edge, drawn, group, through, rfl⟩
    exact ⟨edge, drawn, rfl, through, rfl⟩
  · rintro ⟨edge, drawn, source, through, target⟩
    refine ⟨edge, drawn, connection.group, through, ?_⟩
    rw [source, target]

namespace Document

variable {document : Document} {logic : Logic} {node : Node} {step : LogicStep}

/-- Both ends of the edges of a wired document are nodes of it. -/
theorem Wired.linked (wired : document.Wired) (typed : document.Typed) : document.Linked := by
  have named : document.Named := ⟨fun node member => (typed node member).named, wired.distinct⟩
  -- An edge that joins two ports ends at nodes.
  refine ⟨wired.distinct, ?_, ?_⟩
  · intro edge drawn
    exact ((wired.joins edge drawn).ends_mem named).1
  · intro edge drawn
    exact ((wired.joins edge drawn).ends_mem named).2

/-- Every edge of a wired document leaves through one of the outputs that nodes of its type have. -/
theorem Wired.offered (wired : document.Wired) (typed : document.Typed) {edge : Edge}
    (drawn : edge ∈ document.edges) (member : node ∈ document.nodes)
    (leaves : edge.source = node.id) :
    ∃ group, document.group? edge = some group ∧ group ≠ .input ∧
      group ∈ defaultGroups node.type := by
  obtain ⟨port, found, output⟩ := (wired.joins edge drawn).leaves
  have through : document.group? edge = some port.group := by
    rw [group?, found, Option.map_some]
  -- Nodes have the ports of their type, so the group is one of those.
  have offered : port.group ∈ defaultGroups node.type :=
    ((wired.linked typed).named typed).port?_offered wired.ports member (leaves ▸ found)
  exact ⟨port.group, through, output, offered⟩

/-- The first target of a node through a group is the target of the first edge that leaves it
there. -/
theorem firstTarget?_eq_some_iff (typed : document.Typed) (member : node ∈ document.nodes)
    {group : PortGroup} {target : Json} :
    document.firstTarget? node group = some target ↔
      ∃ edge, document.IsFirst edge group ∧ edge.source = node.id ∧ edge.target = target := by
  obtain ⟨id, named⟩ := (typed node member).named
  -- Edges are looked through in order, those of other nodes being passed over.
  rw [firstTarget?, outgoing, List.find?_filter, Option.map_eq_some_iff]
  constructor
  · rintro ⟨edge, found, rfl⟩
    obtain ⟨hit, before, after, split, missed⟩ := List.find?_eq_some_iff_append.mp found
    simp only [named, Json.equals_str, beq_iff_eq, decide_eq_true_eq] at hit
    refine ⟨edge, ⟨before, after, split, hit.2, fun earlier listed same through => ?_⟩,
      hit.1.trans named.symm, rfl⟩
    have other := missed earlier listed
    simp [named, through, same.trans hit.1] at other
  · rintro ⟨edge, ⟨before, after, split, through, missed⟩, leaves, rfl⟩
    refine ⟨edge, List.find?_eq_some_iff_append.mpr ⟨?_, before, after, split, ?_⟩, rfl⟩
    · simp [named, leaves, through]
    · intro earlier listed
      have other := missed earlier listed
      rw [leaves, named] at other
      simpa [named, imp_iff_not_or] using other

/-- The link of a step through one of its outputs is the first target of its node there. -/
theorem Renders.link?_of_offered (linked : document.Linked) (typed : document.Typed)
    (renders : document.Renders node step) {group : PortGroup}
    (offered : group ∈ defaultGroups node.type) (output : group ≠ .input) :
    (step.link? group).map Json.str = document.firstTarget? node group := by
  have link := renders.linkThrough_eq offered output
  rw [linkThrough] at link
  cases found : document.firstTarget? node group with
  | none =>
    rw [found, Option.getD_none, Json.null_eq_ofText?] at link
    rw [link, Option.map_none]
  | some target =>
    -- Targets are ids of nodes, and so they are texts.
    obtain ⟨edge, drawn, -, -, rfl⟩ := firstTarget?_eq_some found
    obtain ⟨text, spelled⟩ := typed.text_of_mem (linked.enters edge drawn)
    rw [found, Option.getD_some, spelled, Json.str_eq_ofText?] at link
    rw [link, Option.map_some, spelled]

/-- The link of a step through a group is the first target of its node there. -/
theorem Renders.link?_eq (wired : document.Wired) (typed : document.Typed)
    (member : node ∈ document.nodes) (renders : document.Renders node step) (group : PortGroup) :
    (step.link? group).map Json.str = document.firstTarget? node group := by
  -- Steps have links for the groups that their types offer, and edges leave nodes by those only.
  by_cases offered : group ∈ defaultGroups node.type ∧ group ≠ .input
  · exact renders.link?_of_offered (wired.linked typed) typed offered.1 offered.2
  · -- No edge leaves the node elsewhere, and the step has no link there.
    have nowhere : document.firstTarget? node group = none := by
      refine Option.eq_none_iff_forall_ne_some.mpr fun target found => ?_
      obtain ⟨edge, ⟨before, after, split, through, -⟩, leaves, -⟩ :=
        (firstTarget?_eq_some_iff typed member).mp found
      have drawn : edge ∈ document.edges := by simp [split]
      obtain ⟨only, same, output, among⟩ := wired.offered typed drawn member leaves
      rw [through, Option.some.injEq] at same
      exact offered ⟨same ▸ among, same ▸ output⟩
    rw [nowhere, Option.map_eq_none_iff]
    exact renders.link?_eq_none offered

section Compiled

variable (wired : document.Wired) (compiled : document.compile = .ok logic)

include wired compiled

/-- Every link of a step is the target of the first edge that leaves its node through the group. -/
theorem Wired.made (listed : step ∈ logic.steps) {group : PortGroup} {target : String}
    (link : step.link? group = some target) :
    ∃ edge, document.IsFirst edge group ∧ edge.source = .str step.id ∧
      edge.target = .str target := by
  have typed := typed_of_compile compiled
  obtain ⟨node, member, renders⟩ :=
    exists_of_forall₂_right (compile_eq_ok.mp compiled).1 listed
  -- The link is the first target of its group, and the first target is that of a first edge.
  have found := renders.link?_eq wired typed member group
  rw [link, Option.map_some, eq_comm, firstTarget?_eq_some_iff typed member] at found
  rwa [renders.id] at found

/-- Every edge is the link of its node through the group it leaves by, unless an edge before it
leaves the node there, too. -/
theorem Wired.kept {before after : List Edge} {edge : Edge}
    (split : document.edges = before ++ edge :: after) :
    ∃ group step, document.group? edge = some group ∧ group ≠ .input ∧
      step ∈ logic.steps ∧ .str step.id = edge.source ∧
      ((step.link? group).map Json.str = some edge.target ∨
        ∃ earlier ∈ before, earlier.source = edge.source ∧
          document.group? earlier = some group) := by
  have typed := typed_of_compile compiled
  have drawn : edge ∈ document.edges := by simp [split]
  -- The node that the edge leaves has a step, and the group is one that it has a way out by.
  obtain ⟨node, member, leaves⟩ := List.mem_map.mp ((wired.linked typed).leaves edge drawn)
  obtain ⟨step, listed, renders⟩ := exists_of_forall₂_left (compile_eq_ok.mp compiled).1 member
  obtain ⟨group, through, output, -⟩ := wired.offered typed drawn member leaves.symm
  refine ⟨group, step, through, output, listed, renders.id.symm.trans leaves, ?_⟩
  by_cases shadowed : ∃ earlier ∈ before, earlier.source = edge.source ∧
      document.group? earlier = some group
  · exact .inr shadowed
  · -- Then the edge is the first one, and the link follows it.
    have first : document.IsFirst edge group :=
      ⟨before, after, split, through, fun earlier among same other =>
        shadowed ⟨earlier, among, same, other⟩⟩
    have found : document.firstTarget? node group = some edge.target :=
      (firstTarget?_eq_some_iff typed member).mpr ⟨edge, first, leaves.symm, rfl⟩
    exact .inl ((renders.link?_eq wired typed member group).trans found)

/-- Where no two edges leave a node through one group, the links make the connections that the edges
make. -/
theorem Wired.recovered
    (single : ∀ first ∈ document.edges, ∀ second ∈ document.edges, first.source = second.source →
      document.group? first = document.group? second → first = second) (connection : Connection) :
    connection ∈ logic.connections ↔ connection ∈ document.connections := by
  rw [Logic.mem_connections, mem_connections]
  constructor
  · rintro ⟨step, listed, source, link⟩
    obtain ⟨target, link, spelled⟩ := Option.map_eq_some_iff.mp link
    obtain ⟨edge, ⟨before, after, split, through, -⟩, leaves, enters⟩ :=
      wired.made compiled listed link
    exact ⟨edge, by simp [split], leaves.trans source, through, enters.trans spelled⟩
  · rintro ⟨edge, drawn, source, through, target⟩
    -- Of equal edges the first one is taken, so that none before it leaves the same way.
    obtain ⟨before, after, split, unseen⟩ := List.eq_append_cons_of_mem drawn
    obtain ⟨group, step, same, -, listed, named, link | ⟨earlier, among, leaves, other⟩⟩ :=
      wired.kept compiled split
    · rw [through, Option.some.injEq] at same
      exact ⟨step, listed, named.trans source, by rw [same, link, target]⟩
    · have again := single earlier (by simp [split, among]) edge drawn leaves
        (other.trans same.symm)
      exact absurd (again ▸ among) unseen

end Compiled

/-- A wired document comes to logic exactly if it is typed, and the links of its logic are its
connections: a link follows the first edge that leaves its node through its group, only edges behind
such an edge have no link, and where no edge stands behind another all connections can be told from
the links. -/
theorem compile_connections (wired : document.Wired) :
    ((∃ logic, document.compile = .ok logic) ↔ document.Typed) ∧
      ∀ logic, document.compile = .ok logic → logic.Mirrors document := by
  refine ⟨⟨?_, fun typed => ?_⟩, fun logic compiled => ?_⟩
  · rintro ⟨logic, compiled⟩
    exact typed_of_compile compiled
  · exact (compile_isOk_iff (wired.linked typed)).mpr typed
  -- Both directions and the recovery speak about the first edge of each group.
  · exact {
      distinct := stepIds_nodup wired.distinct compiled
      kept := fun before edge after split => wired.kept compiled split
      made := fun step listed group target link => wired.made compiled listed link
      recovered := wired.recovered compiled }

/-- A question whose second way to the answer yes stands behind the first one, and a way back. -/
def overdrawn : Document :=
  { fork with
    edges := fork.edges ++ [⟨.str "4", .str "b", .str "trueOut", .str "d", .str "in"⟩,
      ⟨.str "5", .str "d", .str "out", .str "b", .str "in"⟩] }

/-- The second way to the answer yes has no link. -/
theorem overdrawn_mirrored :
    overdrawn.Wired ∧ ∃ logic, overdrawn.compile = .ok logic ∧ logic.Mirrors overdrawn ∧
      logic.steps.map LogicStep.links = [["b"], ["c", "d"], [], ["b"]] := by
  have wired : overdrawn.Wired := by
    refine ⟨by decide, by decide, ?_⟩
    -- Each of the edges joins an output port to an input port.
    have joins (edge : Edge) (source target : Port)
        (leaves : overdrawn.port? edge.source edge.sourcePort = some source)
        (enters : overdrawn.port? edge.target edge.targetPort = some target)
        (output : source.group ≠ .input) (input : target.group = .input) :
        overdrawn.Joins edge := ⟨⟨source, leaves, output⟩, ⟨target, enters, input⟩⟩
    simp only [overdrawn, fork, List.cons_append, List.nil_append, List.forall_mem_cons]
    exact ⟨joins _ _ _ rfl rfl (by decide) rfl, joins _ _ _ rfl rfl (by decide) rfl,
      joins _ _ _ rfl rfl (by decide) rfl, joins _ _ _ rfl rfl (by decide) rfl,
      joins _ _ _ rfl rfl (by decide) rfl, by simp⟩
  obtain ⟨logic, compiled, links⟩ : ∃ logic, overdrawn.compile = .ok logic ∧
      logic.steps.map LogicStep.links = [["b"], ["c", "d"], [], ["b"]] := ⟨_, by rfl, by rfl⟩
  exact ⟨wired, logic, compiled, (compile_connections wired).2 logic compiled, links⟩

end Document

end Flowchart
