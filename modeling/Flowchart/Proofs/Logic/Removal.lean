import Flowchart.Proofs.Logic.Extension

/-! What is left of the logic of a document when a node is removed. The edges at the node go with
it, so that a link to the node passes to the first edge that the one behind it had kept from being a
link, and the nodes that only the removed one led to are roots. -/

namespace Flowchart

/-- Where the first edge leads that leaves a node through a group of its ports to another node than
the one that is removed. -/
def Document.targetBeside? (document : Document) (removed source : Json) (group : PortGroup) :
    Option Json :=
  (document.edges.find? fun edge =>
    edge.source = source ∧ document.group? edge = some group ∧ edge.target ≠ removed).map
      Edge.target

/-- A step after a node is removed: the step says what it said, and a link stands unless it led to
the node. Then it leads along the next edge that leaves the same way for another node, if there is
one. -/
structure LogicStep.Sheds (document : Document) (removed : Json) (old new : LogicStep) : Prop where
  id : new.id = old.id
  type : new.type = old.type
  label : new.label = old.label
  config : new.config = old.config
  stays : ∀ group, (old.link? group).map Json.str ≠ some removed →
    new.link? group = old.link? group
  passes : ∀ group, (old.link? group).map Json.str = some removed →
    (new.link? group).map Json.str = document.targetBeside? removed (.str old.id) group

/-- The logic of a document after a node is removed. -/
structure Logic.Sheds (document : Document) (removed : Json) (old new : Logic) : Prop where
  /-- The steps are those of the other nodes, in their order. -/
  steps : List.Forall₂ (LogicStep.Sheds document removed)
    (old.steps.filter fun step => .str step.id ≠ removed) new.steps
  /-- No link leads to the node. -/
  unlinked : ∀ step ∈ new.steps, ∀ link ∈ step.links, .str link ≠ removed
  /-- The start is another node. -/
  unstarted : new.start.map Json.str ≠ some removed
  /-- The start is the first of the roots, which are those other nodes to which only the removed
  node led, if any did. A root stays one, and new ones are those to which it did lead. -/
  roots : ∃ before after, document.roots = .ok before ∧
    (document.removeNode removed).roots = .ok after ∧
    new.start.map Json.str = after.head?.map Node.id ∧
    after = (document.nodes.filter fun node => node.id ≠ removed ∧
      ∀ edge ∈ document.edges, edge.target = node.id → edge.source = removed) ∧
    (∀ node ∈ before, node.id ≠ removed → node ∈ after) ∧
    ∀ node, node ∈ after ∧ node ∉ before ↔ node ∈ document.nodes ∧ node.id ≠ removed ∧
      (∃ edge ∈ document.edges, edge.target = node.id) ∧
      ∀ edge ∈ document.edges, edge.target = node.id → edge.source = removed

/-- The first item that passes two tests is the first that passes one of them, if it passes the
other one, too. -/
theorem find?_and_of_find? {α : Type} {items : List α} {test other : α → Prop}
    [DecidablePred test] [DecidablePred other]
    (passed : ∀ item, items.find? (fun item => test item) = some item → other item) :
    items.find? (fun item => test item ∧ other item) = items.find? fun item => test item := by
  cases found : items.find? fun item => test item with
  | none =>
    rw [List.find?_eq_none] at found ⊢
    intro item member
    have missed := found item member
    simp only [decide_eq_true_eq] at missed ⊢
    exact fun both => missed both.1
  | some item =>
    -- Nothing before the item passes the first test, so nothing there passes both.
    obtain ⟨hit, before, after, split, missed⟩ := List.find?_eq_some_iff_append.mp found
    refine List.find?_eq_some_iff_append.mpr ⟨?_, before, after, split, fun earlier listed => ?_⟩
    · exact decide_eq_true ⟨of_decide_eq_true hit, passed item found⟩
    · have miss := missed earlier listed
      simp only [Bool.not_eq_true', decide_eq_false_iff_not] at miss ⊢
      exact fun both => miss both.1

/-- A text is equal to a value exactly if it is that value. -/
theorem Json.str_equals_eq (text : String) (value : Json) :
    Json.equals (.str text) value = decide (Json.str text = value) := by
  -- A text means the same as itself alone.
  rw [Bool.eq_iff_iff, str_equals, decide_eq_true_iff]
  exact eq_comm

namespace Document

variable {document : Document} {removed : Json} {node : Node}

/-- A document stays linked when a node is removed. -/
theorem Linked.removeNode (linked : document.Linked) (removed : Json) :
    (document.removeNode removed).Linked := by
  have kept {id : Json} (member : id ∈ document.nodes.map Node.id)
      (other : id.equals removed = false) :
      id ∈ (document.removeNode removed).nodes.map Node.id := by
    obtain ⟨node, listed, rfl⟩ := List.mem_map.mp member
    exact List.mem_map_of_mem (List.mem_filter.mpr ⟨listed, by simp [other]⟩)
  -- The edges at the node are gone, and the ends of all others are nodes that are left.
  have left {edge : Edge} (drawn : edge ∈ (document.removeNode removed).edges) :
      edge ∈ document.edges ∧ edge.source.equals removed = false ∧
        edge.target.equals removed = false := by
    simpa [Document.removeNode] using drawn
  refine ⟨linked.distinct.sublist (List.filter_sublist.map Node.id), fun edge drawn => ?_,
    fun edge drawn => ?_⟩
  · exact kept (linked.leaves edge (left drawn).1) (left drawn).2.1
  · exact kept (linked.enters edge (left drawn).1) (left drawn).2.2

section

variable (typed : document.Typed)
include typed

/-- A document stays typed when a node is removed. -/
theorem Typed.removeNode (removed : Json) : (document.removeNode removed).Typed :=
  fun node member => typed node (List.mem_filter.mp member).1

/-- The nodes that are left when one is removed are those with other ids. -/
theorem Typed.nodes_removeNode : (document.removeNode removed).nodes =
    document.nodes.filter fun node => node.id ≠ removed := by
  -- The ids are texts, so meaning the same is being equal.
  refine List.filter_congr fun node member => ?_
  obtain ⟨text, named⟩ := (typed node member).named
  rw [named, Json.str_equals_eq, decide_not]

/-- The edges that are left when a node is removed are those between other nodes. -/
theorem Typed.edges_removeNode (linked : document.Linked) : (document.removeNode removed).edges =
    document.edges.filter fun edge => edge.source ≠ removed ∧ edge.target ≠ removed := by
  refine List.filter_congr fun edge drawn => ?_
  -- Both ends of an edge are texts, so meaning the same is being equal.
  obtain ⟨source, leaves⟩ := typed.text_of_mem (linked.leaves edge drawn)
  obtain ⟨target, enters⟩ := typed.text_of_mem (linked.enters edge drawn)
  rw [leaves, enters, Json.str_equals_eq, Json.str_equals_eq, Bool.decide_and, decide_not,
    decide_not]

/-- The first target of a node is that of the first edge that leaves it through the group. -/
theorem Typed.firstTarget?_eq (member : node ∈ document.nodes) (group : PortGroup) :
    document.firstTarget? node group = (document.edges.find? fun edge =>
      edge.source = node.id ∧ document.group? edge = some group).map Edge.target := by
  -- The id of the node is a text, so the edges that leave it are those that name it.
  obtain ⟨id, named⟩ := (typed node member).named
  rw [firstTarget?, outgoing, List.find?_filter]
  congr 2
  funext edge
  simp only [named, Json.equals_str, beq_iff_eq]

/-- When a node is removed, the first target of another one is that of the first edge that did not
lead to the removed one. -/
theorem Typed.firstTarget?_removeNode (linked : document.Linked) (member : node ∈ document.nodes)
    (apart : node.id ≠ removed) (group : PortGroup) :
    (document.removeNode removed).firstTarget? node group =
      document.targetBeside? removed node.id group := by
  have left : node ∈ (document.removeNode removed).nodes := by
    rw [typed.nodes_removeNode]
    exact List.mem_filter.mpr ⟨member, decide_eq_true apart⟩
  rw [(typed.removeNode removed).firstTarget?_eq left, typed.edges_removeNode linked,
    List.find?_filter, targetBeside?]
  congr 1
  refine List.find?_congr fun edge _ => ?_
  obtain ⟨id, named⟩ := (typed node member).named
  -- Only the edges that leave the node count, and none of them leaves the removed one.
  by_cases leaves : edge.source = node.id
  · -- The edge leaves the node through the same group as before.
    have other : node.id.isSame removed = false := by
      rw [named, Bool.eq_false_iff]
      exact fun same => apart (named.trans ((Json.str_isSame id removed).mp same).symm)
    have group : (document.removeNode removed).group? edge = document.group? edge := by
      rw [group?, group?, port?, port?, leaves, node?_removeNode document other]
    simp [leaves, apart, group, and_comm]
  · simp [leaves]

end

section

variable (linked : document.Linked) (typed : document.Typed)
include typed

/-- A first target that is not the removed node is the first one beside it, too. -/
theorem Typed.targetBeside?_eq (member : node ∈ document.nodes) {group : PortGroup}
    (missed : document.firstTarget? node group ≠ some removed) :
    document.targetBeside? removed node.id group = document.firstTarget? node group := by
  rw [typed.firstTarget?_eq member] at missed ⊢
  rw [targetBeside?]
  simp only [← and_assoc]
  congr 1
  -- The first edge through the group passes the test for its target, too.
  exact find?_and_of_find? fun edge found target => missed (by rw [found, Option.map_some, target])

include linked

/-- The step of another node before and after a node is removed. -/
theorem Renders.sheds {old new : LogicStep} (member : node ∈ document.nodes)
    (apart : node.id ≠ removed) (before : document.Renders node old)
    (after : (document.removeNode removed).Renders node new) :
    LogicStep.Sheds document removed old new := by
  -- Through an output of the node the first targets count, and elsewhere there is no link.
  have links (group : PortGroup) :
      (old.link? group).map Json.str = document.firstTarget? node group ∧
      (new.link? group).map Json.str = document.targetBeside? removed node.id group ∨
      old.link? group = none ∧ new.link? group = none := by
    by_cases way : group ∈ defaultGroups node.type ∧ group ≠ .input
    · left
      rw [before.link?_of_offered linked typed way.1 way.2,
        after.link?_of_offered (linked.removeNode removed) (typed.removeNode removed) way.1 way.2,
        typed.firstTarget?_removeNode linked member apart]
      exact ⟨rfl, rfl⟩
    · exact .inr ⟨before.link?_eq_none way, after.link?_eq_none way⟩
  refine ⟨Json.str.inj (after.id.symm.trans before.id),
    Json.str.inj (after.type.symm.trans before.type),
    Json.ofText?_inj (after.label.symm.trans before.label),
    Except.ok.inj (after.settings.symm.trans before.settings), fun group missed => ?_,
    fun group hit => ?_⟩
  · -- A link that did not lead to the removed node is the first target beside it, too.
    obtain ⟨first, beside⟩ | ⟨absent, still⟩ := links group
    · rw [first] at missed
      rw [typed.targetBeside?_eq member missed, ← first] at beside
      exact Option.map_injective (fun _ _ => Json.str.inj) beside
    · rw [absent, still]
  -- A link that did lead to the removed node is lost or falls back to the next edge of its group.
  · obtain ⟨-, beside⟩ | ⟨absent, -⟩ := links group
    · rw [beside, before.id]
    · simp [absent] at hit

/-- The roots that are left when a node is removed are the other nodes to which only the removed one
led, if any did. -/
theorem unaimed_removeNode : (document.removeNode removed).unaimed =
    document.nodes.filter fun node => node.id ≠ removed ∧
      ∀ edge ∈ document.edges, edge.target = node.id → edge.source = removed := by
  rw [unaimed, typed.nodes_removeNode, typed.edges_removeNode linked, List.filter_filter]
  refine List.filter_congr fun node member => ?_
  obtain ⟨id, named⟩ := (typed node member).named
  rw [Bool.eq_iff_iff]
  simp only [named, Bool.and_eq_true, Bool.not_eq_true', List.any_eq_false, List.mem_filter,
    decide_eq_true_iff, Json.isSame_str, and_imp]
  -- The edges that are left leave other nodes, so those into a root left the removed one.
  constructor
  · rintro ⟨unaimed, apart⟩
    refine ⟨apart, fun edge drawn enters => Decidable.byContradiction fun leaves => ?_⟩
    exact unaimed edge drawn leaves (enters ▸ apart) enters
  · rintro ⟨apart, only⟩
    exact ⟨fun edge drawn leaves _ enters => leaves (only edge drawn enters), apart⟩

/-- The logic of a document before and after a node is removed. -/
theorem compile_sheds {old new : Logic} (compiled : document.compile = .ok old)
    (recompiled : (document.removeNode removed).compile = .ok new) :
    Logic.Sheds document removed old new := by
  have less := linked.removeNode removed
  have again := typed.removeNode removed
  -- What is left is linked and typed, so its logic is closed as well.
  have closed := compile_closedOver less recompiled
  -- The steps that are left are those of other nodes.
  have others {id : String} (once : (new.steps.map LogicStep.id).count id = 1) :
      Json.str id ≠ removed := by
    have member : id ∈ new.steps.map LogicStep.id := List.count_pos_iff.mp (by omega)
    have named := List.mem_map_of_mem (f := Json.str) member
    rw [List.map_map] at named
    have kept := (stepIds_of_compile recompiled) ▸ named
    rw [typed.nodes_removeNode] at kept
    obtain ⟨node, listed, spelled⟩ := List.mem_map.mp kept
    exact spelled ▸ of_decide_eq_true (List.mem_filter.mp listed).2
  -- Unaimed is what only the removed node was aiming at.
  have left {node : Node} : node ∈ (document.removeNode removed).unaimed ↔
      node ∈ document.nodes ∧ node.id ≠ removed ∧
        ∀ edge ∈ document.edges, edge.target = node.id → edge.source = removed := by
    rw [unaimed_removeNode linked typed, List.mem_filter, decide_eq_true_iff]
  refine ⟨?_, fun step listed link among => others (closed.links step listed link among),
    fun start => ?_, document.unaimed, (document.removeNode removed).unaimed,
    roots_eq linked typed, roots_eq less again, start_of_compile less recompiled,
    unaimed_removeNode linked typed, fun node root apart => ?_, fun node => ?_⟩
  · -- Both logics have their steps beside the nodes, so their steps stand beside each other.
    have before := (compile_eq_ok.mp compiled).1
    have after := (compile_eq_ok.mp recompiled).1
    rw [typed.nodes_removeNode] at after
    have same : List.Forall₂ document.Renders
        (document.nodes.filter fun node => node.id ≠ removed)
        (old.steps.filter fun step => .str step.id ≠ removed) :=
      List.rel_filter (fun node step renders => by simp [renders.id]) before
    refine forall₂_of_beside same after fun node member old new rendered recast => ?_
    obtain ⟨listed, apart⟩ := List.mem_filter.mp member
    exact rendered.sheds linked typed listed (of_decide_eq_true apart) recast
  -- The new start is one of the steps that are left.
  · obtain ⟨id, same, spelled⟩ := Option.map_eq_some_iff.mp start
    exact others (closed.startStep id same) spelled
  · obtain ⟨listed, unaimed⟩ := (mem_unaimed_iff typed).mp root
    exact left.mpr ⟨listed, apart, fun edge drawn enters =>
      absurd enters (unaimed edge drawn)⟩
  · -- A root is new if an edge did lead to it, which is one that left the removed node.
    rw [left, mem_unaimed_iff typed]
    constructor
    · rintro ⟨⟨listed, apart, only⟩, aimed⟩
      simp only [listed, true_and, not_forall, ne_eq, not_not] at aimed
      obtain ⟨edge, drawn, enters⟩ := aimed
      exact ⟨listed, apart, ⟨edge, drawn, enters⟩, only⟩
    · rintro ⟨listed, apart, ⟨edge, drawn, enters⟩, only⟩
      exact ⟨⟨listed, apart, only⟩, fun root => root.2 edge drawn enters⟩

end

/-- A node that is removed takes its own step out of the logic of a document, and nothing else. The
other steps say what they said, in the same order. Their links stay, except that a link to the node
passes to the first edge that leaves the same way for another node, or is gone if there is none. The
start is the first of the roots, which are the old ones but for the node, and the nodes to which
only the removed one led. There is logic after the removal exactly if the other nodes are typed. -/
theorem compile_removeNode (linked : document.Linked) (removed : Json) :
    ((∃ logic, document.compile = .ok logic) ↔ document.Typed) ∧
      ((∃ logic, (document.removeNode removed).compile = .ok logic) ↔
        ∀ node ∈ document.nodes, node.id.equals removed = false → node.Typed) ∧
      ∀ old, document.compile = .ok old → ∃ new,
        (document.removeNode removed).compile = .ok new ∧ Logic.Sheds document removed old new := by
  -- Without the node only the others have to be typed.
  have others : (document.removeNode removed).Typed ↔
      ∀ node ∈ document.nodes, node.id.equals removed = false → node.Typed := by
    simp [Typed, removeNode]
  have compiles := compile_isOk_iff (linked.removeNode removed)
  refine ⟨compile_isOk_iff linked, compiles.trans others, fun old compiled => ?_⟩
  have typed := typed_of_compile compiled
  obtain ⟨new, recompiled⟩ := compiles.mpr (typed.removeNode removed)
  exact ⟨new, recompiled, compile_sheds linked typed compiled recompiled⟩

/-- A question whose first answer yes leads to a step that another one, drawn before the start,
waits for. -/
def relayed : Document :=
  { overdrawn with
    nodes := .fresh .default (.str "e") (.str "step") .null 0 0 :: overdrawn.nodes
    edges := overdrawn.edges ++ [⟨.str "6", .str "c", .str "out", .str "e", .str "in"⟩] }

/-- Without the step between, the second answer yes counts, and the start is the step that waited.
-/
theorem relayed_without :
    relayed.Linked ∧ ∃ old new, relayed.compile = .ok old ∧
      (relayed.removeNode (.str "c")).compile = .ok new ∧
      old.start = some "a" ∧ old.steps.map LogicStep.links = [[], ["b"], ["c", "d"], ["e"], ["b"]] ∧
      new.start = some "e" ∧ new.steps.map LogicStep.links = [[], ["b"], ["d", "d"], ["b"]] ∧
      Logic.Sheds relayed (.str "c") old new := by
  have linked : relayed.Linked := ⟨by decide, by decide, by decide⟩
  obtain ⟨old, compiled, started, links⟩ : ∃ logic, relayed.compile = .ok logic ∧
      logic.start = some "a" ∧
      logic.steps.map LogicStep.links = [[], ["b"], ["c", "d"], ["e"], ["b"]] :=
    ⟨_, by rfl, by rfl, by rfl⟩
  -- The removed step had a second way beside it, which now counts.
  obtain ⟨new, recompiled, restarted, relinked⟩ :
      ∃ logic, (relayed.removeNode (.str "c")).compile = .ok logic ∧ logic.start = some "e" ∧
        logic.steps.map LogicStep.links = [[], ["b"], ["d", "d"], ["b"]] :=
    ⟨_, by rfl, by rfl, by rfl⟩
  obtain ⟨again, same, sheds⟩ := (compile_removeNode linked (.str "c")).2.2 old compiled
  cases recompiled.symm.trans same
  exact ⟨linked, old, new, compiled, recompiled, started, links, restarted, relinked, sheds⟩

end Document

end Flowchart
