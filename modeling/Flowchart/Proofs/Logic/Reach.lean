import Mathlib.Data.List.Basic
import Mathlib.Order.WellFoundedSet
import Flowchart.Proofs.Logic.Closed
import Flowchart.Proofs.Validation

/-! What can be reached in a document without cycles: every node from a node that no edge points at,
so that one start reaches all of them where there is no other. -/

namespace Flowchart

open Relation (ReflTransGen TransGen)

namespace Document

/-- An edge runs from one id to another. -/
def Leads (document : Document) (first second : Json) : Prop :=
  ∃ edge ∈ document.edges, edge.source = first ∧ edge.target = second

/-- No walk along the edges comes back to the node it left. -/
def Acyclic (document : Document) : Prop := ∀ id, ¬ TransGen document.Leads id id

/-- Nodes have the ports of their types, every edge leaves through an output, and no two edges leave
a node through the same group. -/
structure Unforked (document : Document) : Prop where
  ports : ∀ node ∈ document.nodes, node.ports = defaultPorts node.type
  outputs : ∀ edge ∈ document.edges, ∃ port,
    document.port? edge.source edge.sourcePort = some port ∧ port.group ≠ .input
  single : ∀ first ∈ document.edges, ∀ second ∈ document.edges, first.source = second.source →
    document.group? first = document.group? second → first = second

variable {document : Document} {logic : Logic}

/-- A document has no cycle if its edges lead upwards. -/
theorem Acyclic.of_rank (rank : Json → Nat)
    (upwards : ∀ edge ∈ document.edges, rank edge.source < rank edge.target) :
    document.Acyclic := by
  have rises {first second : Json} (walk : TransGen document.Leads first second) :
      rank first < rank second := by
    -- Ranks rise along each edge of the walk, so a walk never comes back.
    induction walk with
    | single step =>
      obtain ⟨edge, drawn, rfl, rfl⟩ := step
      exact upwards edge drawn
    | tail _ step ih =>
      obtain ⟨edge, drawn, rfl, rfl⟩ := step
      exact ih.trans (upwards edge drawn)
  exact fun id cycle => (rises cycle).false

/-- Where there is no cycle, walks backwards through the nodes come to an end. -/
theorem Acyclic.wellFoundedOn (acyclic : document.Acyclic) :
    {id | id ∈ document.nodes.map Node.id}.WellFoundedOn (TransGen document.Leads) := by
  -- Without a cycle the relation is a strict order, and these are well founded on finite sets.
  have : IsStrictOrder Json (TransGen document.Leads) :=
    { irrefl := acyclic, trans := fun _ _ _ => TransGen.trans }
  exact (List.finite_toSet _).wellFoundedOn

/-- Where there is no cycle, every node is reached from one that no edge points at. -/
theorem Acyclic.exists_root (acyclic : document.Acyclic) (linked : document.Linked) {id : Json}
    (member : id ∈ document.nodes.map Node.id) :
    ∃ root ∈ document.nodes, (∀ edge ∈ document.edges, edge.target ≠ root.id) ∧
      ReflTransGen document.Leads root.id id := by
  -- The walk goes back one edge at a time until no edge is left to go back along.
  apply acyclic.wellFoundedOn.induction member
  intro id member ih
  by_cases aimed : ∃ edge ∈ document.edges, edge.target = id
  · obtain ⟨edge, drawn, target⟩ := aimed
    have back : document.Leads edge.source id := ⟨edge, drawn, rfl, target⟩
    obtain ⟨root, listed, unaimed, reached⟩ := ih _ (linked.leaves edge drawn) (.single back)
    exact ⟨root, listed, unaimed, reached.tail back⟩
  · obtain ⟨root, listed, rfl⟩ := List.mem_map.mp member
    exact ⟨root, listed, fun edge drawn target => aimed ⟨edge, drawn, target⟩, .refl⟩

/-- Where there is no cycle, there is a start if there is any node. -/
theorem Acyclic.exists_start (acyclic : document.Acyclic) (linked : document.Linked)
    (compiled : document.compile = .ok logic) (occupied : document.nodes ≠ []) :
    ∃ start, logic.start = some start := by
  apply Option.ne_none_iff_exists'.mp
  intro startless
  obtain ⟨node, member⟩ := List.exists_mem_of_ne_nil _ occupied
  obtain ⟨root, listed, unaimed, -⟩ := acyclic.exists_root linked (List.mem_map_of_mem member)
  -- Without a start some edge points at every node, the root included.
  obtain ⟨edge, drawn, target⟩ :=
    (compile_closedOver linked compiled).startless.mp startless root listed
  exact unaimed edge drawn target

/-- Where there is no cycle and no second root, every node is reached from the start. -/
theorem Acyclic.start_reaches (acyclic : document.Acyclic) (linked : document.Linked)
    (compiled : document.compile = .ok logic) (passed : document.startFinding? = .ok none)
    {node : Node} (member : node ∈ document.nodes) :
    ∃ start, logic.start = some start ∧ ReflTransGen document.Leads (.str start) node.id := by
  have typed := typed_of_compile compiled
  obtain empty | ⟨only, found⟩ := startFinding?_eq_none.mp passed
  · rw [empty] at member
    cases member
  rw [roots_eq linked typed, Except.ok.injEq] at found
  have started := start_of_compile linked compiled
  rw [found, List.head?_cons, Option.map_some] at started
  obtain ⟨start, same, spelled⟩ := Option.map_eq_some_iff.mp started
  -- The root that the node is reached from is the only one there is.
  obtain ⟨root, listed, unaimed, reached⟩ :=
    acyclic.exists_root linked (List.mem_map_of_mem member)
  have rooted : root ∈ document.unaimed := (mem_unaimed_iff typed).mpr ⟨listed, unaimed⟩
  rw [found, List.mem_singleton] at rooted
  rw [rooted, ← spelled] at reached
  exact ⟨start, same, reached⟩

end Document

/-- A step leads to the ids it is linked to. -/
def Logic.Leads (logic : Logic) (first second : String) : Prop :=
  ∃ step ∈ logic.steps, step.id = first ∧ second ∈ step.links

namespace Document

variable {document : Document} {logic : Logic}

/-- Where no two edges leave a node through one group, the link through the group follows the edge
that does. -/
theorem Unforked.linkThrough_eq (unforked : document.Unforked) (typed : document.Typed)
    {node : Node} (member : node ∈ document.nodes) {edge : Edge} (drawn : edge ∈ document.edges)
    (leaves : edge.source = node.id) {group : PortGroup}
    (through : document.group? edge = some group) :
    document.linkThrough node group = edge.target := by
  obtain ⟨id, named⟩ := (typed node member).named
  cases found : document.firstTarget? node group with
  | none =>
    -- The edge itself is among those that are looked through.
    have outgoing : edge ∈ document.outgoing node.id :=
      List.mem_filter.mpr ⟨drawn, by rw [leaves, named, Json.equals_str]⟩
    rw [firstTarget?, Option.map_eq_none_iff] at found
    simpa [through] using List.find?_eq_none.mp found edge outgoing
  | some target =>
    obtain ⟨first, listed, source, same, rfl⟩ := firstTarget?_eq_some found
    rw [named, Json.equals_str, ← named, ← leaves] at source
    rw [unforked.single first listed edge drawn source (same.trans through.symm)] at found
    rw [linkThrough, found, Option.getD_some]

/-- The logic of an unforked document leads wherever the document does. -/
theorem Unforked.leads (unforked : document.Unforked) (linked : document.Linked)
    (compiled : document.compile = .ok logic) {source target : String}
    (leads : document.Leads (.str source) (.str target)) : logic.Leads source target := by
  have typed := typed_of_compile compiled
  obtain ⟨edge, drawn, leaves, enters⟩ := leads
  obtain ⟨node, member, named⟩ := List.mem_map.mp (linked.leaves edge drawn)
  obtain ⟨step, listed, renders⟩ :=
    exists_of_forall₂_left (compile_eq_ok.mp compiled).1 member
  obtain ⟨port, found, output⟩ := unforked.outputs edge drawn
  -- The port that the edge leaves through is one of those that nodes of the type have.
  have offered : port.group ∈ defaultGroups node.type :=
    (linked.named typed).port?_offered unforked.ports member (named ▸ found)
  have through : document.group? edge = some port.group := by rw [group?, found, Option.map_some]
  have link := unforked.linkThrough_eq typed member drawn named.symm through
  refine ⟨step, listed, ?_, renders.mem_links offered output (link.trans enters)⟩
  rw [← Json.str.injEq, ← renders.id, named, leaves]

/-- The logic of an unforked document reaches what the document does. -/
theorem Unforked.reaches (unforked : document.Unforked) (linked : document.Linked)
    (compiled : document.compile = .ok logic) {start : String} {id : Json}
    (walk : ReflTransGen document.Leads (.str start) id) {target : String}
    (same : id = .str target) : ReflTransGen logic.Leads start target := by
  -- The walk is followed edge by edge, and every id on it is a text.
  induction walk generalizing target with
  | refl =>
    rw [Json.str.inj same]
  | @tail middle last walked step ih =>
    obtain ⟨edge, drawn, leaves, enters⟩ := step
    obtain ⟨text, spelled⟩ :=
      (typed_of_compile compiled).text_of_mem (linked.leaves edge drawn)
    have reached := ih (leaves ▸ spelled)
    exact reached.tail (unforked.leads linked compiled ⟨edge, drawn, spelled, enters.trans same⟩)

/-- A document without cycles has a start if it has nodes. If it passes the strict check, its edges
lead from the start to every node; and if it is unforked, too, the links of its logic lead to every
step. -/
theorem compile_acyclic (linked : document.Linked) (acyclic : document.Acyclic) :
    (document.Typed → ∃ logic, document.compile = .ok logic) ∧
      ∀ logic, document.compile = .ok logic →
        (document.nodes ≠ [] → ∃ start, logic.start = some start) ∧
        ∀ (schemas : List Schema) (properties : List Property) (startType : Json),
          document.finding? schemas properties startType true = .ok none →
          (∀ node ∈ document.nodes, ∃ start, logic.start = some start ∧
            ReflTransGen document.Leads (.str start) node.id) ∧
          (document.Unforked → ∀ step ∈ logic.steps, ∃ start, logic.start = some start ∧
            ReflTransGen logic.Leads start step.id) := by
  refine ⟨(compile_isOk_iff linked).mpr, fun logic compiled => ⟨?_, ?_⟩⟩
  · exact acyclic.exists_start linked compiled
  · intro schemas properties startType passed
    -- Where the document has one root only, every walk back ends there.
    have reached {node : Node} (member : node ∈ document.nodes) :=
      acyclic.start_reaches linked compiled (startFinding?_of_finding? passed) member
    refine ⟨fun node member => reached member, fun unforked step listed => ?_⟩
    obtain ⟨node, member, renders⟩ :=
      exists_of_forall₂_right (compile_eq_ok.mp compiled).1 listed
    obtain ⟨start, same, walk⟩ := reached member
    exact ⟨start, same, unforked.reaches linked compiled walk renders.id⟩

/-- A start, a question, and a step for either answer. -/
def fork : Document where
  nodes := [
    .fresh .default (.str "a") (.str "start") .null 0 0,
    { Node.fresh .default (.str "b") (.str "if") .null 0 0 with
      config := .obj [(conditionKey, .obj [("propertyId", .str "age"), ("operator", .str "gt"),
        ("value", .int 18)])] },
    .fresh .default (.str "c") (.str "step") .null 0 0,
    .fresh .default (.str "d") (.str "step") .null 0 0]
  edges := [⟨.str "1", .str "a", .str "out", .str "b", .str "in"⟩,
    ⟨.str "2", .str "b", .str "trueOut", .str "c", .str "in"⟩,
    ⟨.str "3", .str "b", .str "falseOut", .str "d", .str "in"⟩]
  viewport := homeViewport

/-- Both answers to the question are reached from the start. -/
theorem fork_reached :
    fork.Linked ∧ fork.Acyclic ∧ fork.Unforked ∧
      fork.finding? [] [] (.str "start") true = .ok none ∧
      ∃ logic, fork.compile = .ok logic ∧ logic.steps.length = 4 ∧
        ∀ step ∈ logic.steps, ∃ start, logic.start = some start ∧
          ReflTransGen logic.Leads start step.id := by
  have linked : fork.Linked := ⟨by decide, by decide, by decide⟩
  -- Edges lead from earlier letters to later ones.
  have acyclic : fork.Acyclic :=
    .of_rank (fun id => [Json.str "a", .str "b", .str "c", .str "d"].idxOf id) (by decide)
  have unforked : fork.Unforked := by
    refine ⟨by decide, ?_, by decide⟩
    simp only [fork, List.forall_mem_cons]
    exact ⟨⟨_, rfl, by decide⟩, ⟨_, rfl, by decide⟩, ⟨_, rfl, by decide⟩, by simp⟩
  have passed : fork.finding? [] [] (.str "start") true = .ok none := by rfl
  obtain ⟨logic, compiled⟩ : ∃ logic, fork.compile = .ok logic := ⟨_, by rfl⟩
  obtain ⟨-, reached⟩ := compile_acyclic linked acyclic
  have steps : logic.steps.length = 4 := (compile_eq_ok.mp compiled).1.length_eq.symm
  exact ⟨linked, acyclic, unforked, passed, logic, compiled, steps,
    ((reached logic compiled).2 [] [] (.str "start") passed).2 unforked⟩

end Document

end Flowchart
