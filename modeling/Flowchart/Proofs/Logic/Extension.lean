import Flowchart.Proofs.Logic.Connections

/-! What a new connection does to the logic of a document. The first edge through a group of ports
wins, and a new edge is the last one, so that it becomes a link only where there was none. -/

namespace Flowchart

/-- A step after a connection from a node, through a group of its ports, to a target: the step says
what it said, every link stands, and a link that was not there is made for the node and the
group. -/
structure LogicStep.Extends (source : Json) (group : PortGroup) (target : Json)
    (old new : LogicStep) : Prop where
  id : new.id = old.id
  type : new.type = old.type
  label : new.label = old.label
  config : new.config = old.config
  link : ∀ out, (new.link? out).map Json.str = ((old.link? out).map Json.str).or
    (if .str old.id = source ∧ out = group then some target else none)

/-- The logic of a document after a connection from a node, through a group of its ports, to a
target. -/
structure Logic.Extends (document : Document) (source : Json) (group : PortGroup) (target : Json)
    (old new : Logic) : Prop where
  steps : List.Forall₂ (LogicStep.Extends source group target) old.steps new.steps
  /-- A start that is not the target stays. -/
  stays : old.start.map Json.str ≠ some target → new.start = old.start
  /-- A start that is the target hands over to the next root, if there is one. -/
  passes : old.start.map Json.str = some target →
    ∃ first rest, document.roots = .ok (first :: rest) ∧ first.id = target ∧
      new.start.map Json.str = rest.head?.map Node.id

/-- A content is known from the value that stands for it. -/
theorem Json.ofText?_inj {first second : Option String} (same : ofText? first = ofText? second) :
    first = second := by
  -- Null comes of no text, and each text of itself.
  cases second with
  | none => exact Json.null_eq_ofText?.mp same.symm
  | some text => exact Json.str_eq_ofText?.mp same.symm

namespace Document

/-- A document with one more edge. -/
def withEdge (document : Document) (edge : Edge) : Document :=
  { document with edges := document.edges ++ [edge] }

variable {document : Document} {node : Node} {edge : Edge} {group : PortGroup}

/-- A new edge counts for a node and a group only where no edge came before it. -/
theorem firstTarget?_withEdge (node : Node) (out : PortGroup) :
    (document.withEdge edge).firstTarget? node out =
      (document.firstTarget? node out).or
        (if edge.source.equals node.id = true ∧ document.group? edge = some out then
          some edge.target else none) := by
  -- Groups are those of the ports, which are found in the nodes.
  have groups (other : Edge) : (document.withEdge edge).group? other = document.group? other := rfl
  simp only [firstTarget?, outgoing, groups]
  rw [withEdge, List.filter_append, List.find?_append, Option.map_or]
  congr 1
  by_cases leaves : edge.source.equals node.id = true
  · by_cases through : document.group? edge = some out <;> simp [leaves, through]
  · simp [leaves]

/-- Only the node that a new edge leads to stops being unaimed. -/
theorem unaimed_withEdge : (document.withEdge edge).unaimed =
    document.unaimed.filter fun node => !edge.target.isSame node.id := by
  simp [unaimed, withEdge, List.filter_filter, Bool.and_comm]

/-- A new edge between its nodes leaves a document linked. -/
theorem Linked.withEdge (linked : document.Linked)
    (source : edge.source ∈ document.nodes.map Node.id)
    (target : edge.target ∈ document.nodes.map Node.id) : (document.withEdge edge).Linked where
  distinct := linked.distinct
  leaves other drawn := by
    -- An edge is an old one or the new one, and the new one is drawn between nodes that are there.
    rcases List.mem_append.mp drawn with old | new
    · exact linked.leaves other old
    · rwa [List.mem_singleton.mp new]
  enters other drawn := by
    rcases List.mem_append.mp drawn with old | new
    · exact linked.enters other old
    · rwa [List.mem_singleton.mp new]

section

variable (linked : document.Linked) (typed : document.Typed)
  (extended : (document.withEdge edge).Linked)
include linked typed extended

/-- The step of a node before and after a new edge. -/
theorem Renders.extends {old new : LogicStep} (before : document.Renders node old)
    (after : (document.withEdge edge).Renders node new)
    (through : document.group? edge = some group)
    (offered : edge.source = node.id → group ∈ defaultGroups node.type) (output : group ≠ .input) :
    LogicStep.Extends edge.source group edge.target old new := by
  have again : (document.withEdge edge).Typed := typed
  -- The node is the same, so that all but the links of its steps is equal.
  refine ⟨Json.str.inj (after.id.symm.trans before.id),
    Json.str.inj (after.type.symm.trans before.type),
    Json.ofText?_inj (after.label.symm.trans before.label),
    Except.ok.inj (after.settings.symm.trans before.settings), fun out => ?_⟩
  by_cases way : out ∈ defaultGroups node.type ∧ out ≠ .input
  · -- Through an output of the node the first target counts, before and after.
    -- The new edge counts for the step of its source and for its own group.
    have named : (edge.source.equals node.id = true ∧ some group = some out) ↔
        (Json.str old.id = edge.source ∧ out = group) := by
      rw [before.id, Json.equals_str, Option.some.injEq, eq_comm (a := edge.source),
        eq_comm (a := group)]
    rw [before.link?_of_offered linked typed way.1 way.2,
      after.link?_of_offered extended again way.1 way.2, firstTarget?_withEdge, through]
    simp only [named]
  · -- Elsewhere there is no link, and the new edge does not leave there.
    have elsewhere : ¬ (Json.str old.id = edge.source ∧ out = group) := by
      rintro ⟨leaves, rfl⟩
      exact way ⟨offered (leaves.symm.trans before.id.symm), output⟩
    rw [before.link?_eq_none way, after.link?_eq_none way, if_neg elsewhere]
    rfl

/-- The start before and after a new edge. -/
theorem start_withEdge {old new : Logic} (compiled : document.compile = .ok old)
    (recompiled : (document.withEdge edge).compile = .ok new) :
    (old.start.map Json.str ≠ some edge.target → new.start = old.start) ∧
      (old.start.map Json.str = some edge.target →
        ∃ first rest, document.roots = .ok (first :: rest) ∧ first.id = edge.target ∧
          new.start.map Json.str = rest.head?.map Node.id) := by
  -- The start is the first unaimed node, before and after.
  have before := start_of_compile linked compiled
  have after := start_of_compile extended recompiled
  rw [unaimed_withEdge] at after
  -- The unaimed nodes have ids of their own, which are texts.
  have distinct : (document.unaimed.map Node.id).Nodup :=
    linked.distinct.sublist ((List.filter_sublist).map Node.id)
  -- Only the target of the new edge can be aimed at anew.
  have aimed (other : Node) (member : other ∈ document.unaimed) :
      edge.target.isSame other.id = true ↔ edge.target = other.id := by
    obtain ⟨text, named⟩ := (typed other ((mem_unaimed_iff typed).mp member).1).named
    rw [named, Json.isSame_str]
  rw [roots_eq linked typed]
  have starts : Function.Injective (Option.map Json.str) :=
    Option.map_injective fun first second => Json.str.inj
  cases unaimed : document.unaimed with
  | nil =>
    rw [unaimed, List.head?_nil, Option.map_none] at before
    rw [unaimed, List.filter_nil, List.head?_nil, Option.map_none] at after
    exact ⟨fun _ => starts (after.trans before.symm), fun hit => by simp [before] at hit⟩
  | cons first rest =>
    rw [unaimed] at before after distinct aimed
    rw [List.head?_cons, Option.map_some] at before
    by_cases hit : edge.target = first.id
    · -- The first root is dropped, and all others are kept.
      have others : ∀ other ∈ rest, edge.target.isSame other.id = false := by
        intro other member
        rw [← Bool.not_eq_true, aimed other (List.mem_cons_of_mem _ member), hit]
        intro same
        exact (List.nodup_cons.mp distinct).1 (same ▸ List.mem_map_of_mem member)
      have left : (first :: rest).filter (fun node => !edge.target.isSame node.id) = rest := by
        rw [List.filter_cons_of_neg (by simp [(aimed first List.mem_cons_self).mpr hit])]
        exact List.filter_eq_self.mpr fun other member => by simp [others other member]
      rw [left] at after
      exact ⟨fun missed => absurd (before.trans (congrArg some hit.symm)) missed,
        fun _ => ⟨first, rest, rfl, hit.symm, after⟩⟩
    · -- The first root is kept, whatever becomes of the others.
      have passed : edge.target.isSame first.id = false := by
        rw [← Bool.not_eq_true, aimed first List.mem_cons_self]
        exact hit
      rw [List.filter_cons_of_pos (by simp [passed]), List.head?_cons, Option.map_some] at after
      refine ⟨fun _ => starts (after.trans before.symm), fun target => ?_⟩
      rw [before, Option.some.injEq] at target
      exact absurd target.symm hit

end

/-- A connection that is made leaves the logic of a document as it stands. The steps say what they
said, every link stays, and the new edge becomes the link of its node for its group only where there
was none. The start stays unless the edge leads to it, and then the next root in document order is
the start. There is logic after the connection exactly if there was logic before. -/
theorem compile_connect {next : Document} {allowSelfLoops : Bool}
    {id source sourcePort target targetPort : Json} (linked : document.Linked)
    (ports : ∀ node ∈ document.nodes, node.ports = defaultPorts node.type)
    (connected : document.connect allowSelfLoops id source sourcePort target targetPort =
      some (next, edge)) :
    ((∃ logic, document.compile = .ok logic) ↔ ∃ logic, next.compile = .ok logic) ∧
      ∀ old, document.compile = .ok old → ∃ new port, next.compile = .ok new ∧
        document.port? source sourcePort = some port ∧
        Logic.Extends document source port.group target old new := by
  obtain ⟨rfl, rfl, joins, -⟩ := connect_eq_some.mp connected
  -- The nodes stay, and both ends of the new edge are among them.
  have extended (typed : document.Typed) :
      (document.withEdge ⟨id, source, sourcePort, target, targetPort⟩).Linked := by
    obtain ⟨leaves, enters⟩ := joins.ends_mem (linked.named typed)
    exact linked.withEdge leaves enters
  constructor
  · constructor
    · rintro ⟨old, compiled⟩
      have typed := typed_of_compile compiled
      exact (compile_isOk_iff (extended typed)).mpr typed
    · rintro ⟨new, recompiled⟩
      -- Typed are the nodes, which are the same.
      have typed := typed_of_compile recompiled
      exact (compile_isOk_iff linked).mpr typed
  · intro old compiled
    have typed := typed_of_compile compiled
    obtain ⟨new, recompiled⟩ := (compile_isOk_iff (extended typed)).mpr typed
    obtain ⟨port, found, output⟩ := joins.leaves
    have through : document.group? ⟨id, source, sourcePort, target, targetPort⟩ =
        some port.group := congrArg (Option.map Port.group) found
    obtain ⟨stays, passes⟩ := start_withEdge linked typed (extended typed) compiled recompiled
    refine ⟨new, port, recompiled, found, ?_, stays, passes⟩
    -- Before and after, the steps stand beside the nodes.
    refine forall₂_of_beside (compile_eq_ok.mp compiled).1 (compile_eq_ok.mp recompiled).1 ?_
    intro node member before after rendered again
    refine rendered.extends linked typed (extended typed) again through (fun leaves => ?_) output
    exact (linked.named typed).port?_offered ports member (leaves ▸ found)

/-- A way back to the only root leaves no start, and nothing else is lost. -/
theorem fork_connect_back :
    fork.Linked ∧ (∀ node ∈ fork.nodes, node.ports = defaultPorts node.type) ∧
      ∃ next edge old new, fork.connect true (.str "4") (.str "c") (.str "out") (.str "a")
          (.str "in") = some (next, edge) ∧
        fork.compile = .ok old ∧ next.compile = .ok new ∧ old.start = some "a" ∧
        new.start = none ∧ new.steps.map LogicStep.links = [["b"], ["c", "d"], ["a"], []] ∧
        ∃ port : Port, Logic.Extends fork (.str "c") port.group (.str "a") old new := by
  have linked : fork.Linked := ⟨by decide, by decide, by decide⟩
  have ports : ∀ node ∈ fork.nodes, node.ports = defaultPorts node.type := by decide
  obtain ⟨old, compiled, started⟩ : ∃ logic, fork.compile = .ok logic ∧ logic.start = some "a" :=
    ⟨_, by rfl, by rfl⟩
  let edge : Edge := ⟨.str "4", .str "c", .str "out", .str "a", .str "in"⟩
  have connected : fork.connect true (.str "4") (.str "c") (.str "out") (.str "a") (.str "in") =
      some (fork.withEdge edge, edge) := by rfl
  -- The edge goes back to the start, so nothing is left to start at.
  obtain ⟨new, recompiled, startless, links⟩ : ∃ logic, (fork.withEdge edge).compile = .ok logic ∧
      logic.start = none ∧ logic.steps.map LogicStep.links = [["b"], ["c", "d"], ["a"], []] :=
    ⟨_, by rfl, by rfl, by rfl⟩
  obtain ⟨again, port, same, -, extended⟩ :=
    (compile_connect linked ports connected).2 old compiled
  cases recompiled.symm.trans same
  exact ⟨linked, ports, _, _, old, new, connected, compiled, recompiled, started, startless, links,
    port, extended⟩

end Document

end Flowchart
