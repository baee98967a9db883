import Flowchart.Document.Edit

/-! What a connection comes to: an edge from an output to an input that joins no two ports again. -/

namespace Flowchart

/-- An edge leaves an output port and enters an input port. -/
structure Document.Joins (document : Document) (edge : Edge) : Prop where
  leaves : ∃ port, document.port? edge.source edge.sourcePort = some port ∧ port.group ≠ .input
  enters : ∃ port, document.port? edge.target edge.targetPort = some port ∧ port.group = .input

/-- What an edge joins does not depend on its id. -/
theorem Document.joins_withId {document : Document} (edge : Edge) (id : Json) :
    document.Joins { edge with id } ↔ document.Joins edge :=
  ⟨fun joins => ⟨joins.leaves, joins.enters⟩, fun joins => ⟨joins.leaves, joins.enters⟩⟩

namespace Node

/-- What edges depend on in a node: its id, its type and its ports. -/
def frame (node : Node) : Json × Json × List Port := (node.id, node.type, node.ports)

/-- A port found under an id has that id. -/
theorem port?_id {node : Node} {id : Json} {port : Port} (found : node.port? id = some port) :
    port.id.core = id.core :=
  -- The port is found in its node, under an id that means the same.
  Json.core_eq_of_equals (List.find?_some (p := fun port : Port => port.id.equals id) found)

end Node

namespace Document

/-- A node found under an id is one of the nodes. -/
theorem node?_mem {document : Document} {id : Json} {node : Node}
    (found : document.node? id = some node) : node ∈ document.nodes :=
  List.mem_of_find?_eq_some found

/-- A node found under an id equals it. -/
theorem node?_equals {document : Document} {id : Json} {node : Node}
    (found : document.node? id = some node) : node.id.equals id = true :=
  List.find?_some (p := fun node : Node => node.id.equals id) found

/-- A node that is found under an id is found under its own. -/
theorem node?_own {document : Document} {id : Json} {node : Node}
    (found : document.node? id = some node) : document.node? node.id = some node := by
  -- An id that finds a node means the same as the id of that node.
  have same := Json.core_eq_of_equals (node?_equals found)
  simpa only [node?, Json.equals_congr same] using found

/-- A node is found as before when another one is added behind it. -/
theorem node?_addNode {document : Document} {id : Json} {node : Node}
    (found : document.node? id = some node) (added : Node) :
    (document.addNode added).node? id = some node := by
  -- The new node stands behind all others, so it hides none of them.
  rw [node?] at found
  rw [addNode, node?, List.find?_append, found, Option.some_or]

/-- Under an id the same node is found when nodes of another id are removed. -/
theorem node?_removeNode (document : Document) {id removed : Json}
    (apart : id.isSame removed = false) :
    (document.removeNode removed).node? id = document.node? id := by
  rw [removeNode, node?, node?, List.find?_filter]
  congr 1
  funext node
  -- A node with the id that is looked for is none of the removed ones.
  cases named : node.id.equals id with
  | false => simp
  | true =>
    have kept : node.id.equals removed = false := by
      rw [Json.equals, Json.isSame, Json.core_eq_of_equals named, ← Json.isSame, apart,
        Bool.false_and]
    simp [kept]

/-- A port is found by way of the node that has it. -/
theorem port?_eq_some {document : Document} {node port : Json} {found : Port} :
    document.port? node port = some found ↔
      ∃ holder, document.node? node = some holder ∧ holder.port? port = some found := by
  simp [port?, Option.bind_eq_some_iff]

/-- A port found by ids has the id it was asked for. -/
theorem port?_id {document : Document} {node port : Json} {found : Port}
    (lookup : document.port? node port = some found) : found.id.core = port.core := by
  obtain ⟨holder, _, held⟩ := port?_eq_some.mp lookup
  exact Node.port?_id held

/-- Ports are looked up in the frames of the nodes only. -/
theorem port?_eq_frames (document : Document) (node port : Json) :
    document.port? node port =
      ((document.nodes.map Node.frame).find? fun frame => frame.1.equals node).bind
        fun frame => frame.2.2.find? fun candidate => candidate.id.equals port := by
  -- The frame of the node that is found is the frame that is found.
  rw [port?, node?, List.find?_map, Option.bind_map]
  rfl

/-- Documents whose nodes have the same frames have the same ports. -/
theorem port?_congr {first second : Document}
    (same : first.nodes.map Node.frame = second.nodes.map Node.frame) (node port : Json) :
    first.port? node port = second.port? node port := by
  rw [port?_eq_frames, port?_eq_frames, same]

/-- Between nodes of the same frames the same edges may run. -/
theorem Joins.congr {first second : Document}
    (same : first.nodes.map Node.frame = second.nodes.map Node.frame) {edge : Edge}
    (joins : first.Joins edge) : second.Joins edge := by
  -- Whether an edge joins is asked of the frames alone.
  constructor
  · simpa only [port?_congr same] using joins.leaves
  · simpa only [port?_congr same] using joins.enters

/-- What an edge joins depends on the nodes alone. -/
theorem joins_iff_of_nodes {first second : Document} (same : first.nodes = second.nodes)
    (edge : Edge) : first.Joins edge ↔ second.Joins edge :=
  ⟨Joins.congr (by rw [same]), Joins.congr (by rw [same])⟩

/-- The rule on proposed connections in words: the ends join, no edge has them already, and a node
feeds itself only where that is allowed. -/
theorem propose_isAllowed {document : Document} {allowSelfLoops : Bool} {edge : Edge} :
    (document.propose edge.source edge.sourcePort edge.target edge.targetPort).isAllowed
        document.edges allowSelfLoops = true ↔
      document.Joins edge ∧ edge.ends ∉ document.edges.map Edge.ends ∧
        (allowSelfLoops = true ∨ edge.source.equals edge.target = false) := by
  -- Either port may be missing, and then neither side holds.
  cases source : document.port? edge.source edge.sourcePort with
  | none =>
    have apart : ¬ document.Joins edge := fun joins => by simpa [source] using joins.leaves
    simp [propose, Proposal.isAllowed, source, apart]
  | some sourcePort =>
    cases target : document.port? edge.target edge.targetPort with
    | none =>
      have apart : ¬ document.Joins edge := fun joins => by simpa [target] using joins.enters
      simp [propose, Proposal.isAllowed, source, target, apart]
    | some targetPort =>
      -- The ports that are found have the ids that were given.
      have ends : [edge.source, sourcePort.id, edge.target, targetPort.id].map Json.core =
          edge.ends := by
        simp [Edge.ends, port?_id source, port?_id target]
      have joins : document.Joins edge ↔
          sourcePort.group ≠ .input ∧ targetPort.group = .input := by
        constructor
        · intro joins
          exact ⟨by simpa [source] using joins.leaves, by simpa [target] using joins.enters⟩
        · intro groups
          exact ⟨⟨sourcePort, source, groups.1⟩, ⟨targetPort, target, groups.2⟩⟩
      simp only [propose, Proposal.isAllowed, source, target, Proposal.ends, ends, joins]
      simp [and_assoc]

/-- A connection that is made adds one edge at the end, and one that is refused breaks the rule. -/
theorem connect_eq_some {document next : Document} {allowSelfLoops : Bool}
    {id source sourcePort target targetPort : Json} {made : Edge} :
    document.connect allowSelfLoops id source sourcePort target targetPort = some (next, made) ↔
      made = ⟨id, source, sourcePort, target, targetPort⟩ ∧
      next = { document with edges := document.edges ++ [made] } ∧
      document.Joins made ∧ made.ends ∉ document.edges.map Edge.ends ∧
      (allowSelfLoops = true ∨ made.source.equals made.target = false) := by
  -- The rule is asked about the very edge that would be added.
  have rule := @propose_isAllowed document allowSelfLoops
    ⟨id, source, sourcePort, target, targetPort⟩
  simp only [connect]
  split
  · rename_i allowed
    have holds := rule.mp allowed
    simp only [Option.some.injEq, Prod.mk.injEq]
    constructor
    · rintro ⟨rfl, rfl⟩
      exact ⟨rfl, rfl, holds⟩
    · rintro ⟨rfl, rfl, _⟩
      exact ⟨rfl, rfl⟩
  · rename_i refused
    simp only [reduceCtorEq, false_iff]
    rintro ⟨rfl, _, holds⟩
    exact refused (rule.mpr holds)

end Document

end Flowchart
