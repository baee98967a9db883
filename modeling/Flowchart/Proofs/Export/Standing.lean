import Flowchart.Proofs.Document.Coherence
import Flowchart.Proofs.Export.Portable
import Flowchart.Proofs.Payload.Reading
import Flowchart.Proofs.Payload.References

/-! The payload that stands for a portable document: the document is written like the payload, and
the payload keeps the rules of the importer because the document is coherent. -/

namespace Flowchart

/-- Where every item comes from something, a list comes from a list. -/
theorem exists_map_eq {α β : Type} {property : α → Prop} {make : α → β} {items : List β}
    (each : ∀ item ∈ items, ∃ source, property source ∧ make source = item) :
    ∃ sources : List α, (∀ source ∈ sources, property source) ∧ sources.map make = items := by
  -- One source is chosen for each item in turn.
  induction items with
  | nil => exact ⟨[], nofun, rfl⟩
  | cons item rest ih =>
    obtain ⟨source, holds, made⟩ := each item List.mem_cons_self
    obtain ⟨sources, all, same⟩ := ih fun later member => each later (List.mem_cons_of_mem _ member)
    have mapped : (source :: sources).map make = item :: rest := by
      rw [List.map_cons, made, same]
    exact ⟨source :: sources, List.forall_mem_cons.mpr ⟨holds, all⟩, mapped⟩

/-- A node of a payload with nothing left out. -/
structure NodePayload.Whole (node : NodePayload) : Prop where
  named : node.id ≠ ""
  typed : node.type ≠ ""
  labelled : node.label.isSome = true
  worded : node.text.isSome = true
  placed : node.position ≠ []
  sized : node.width.isSome = true ∧ node.height.isSome = true
  ports : node.ports = (defaultGroups (.str node.type)).map PortPayload.ofGroup
  config : Json.finiteMembers node.config = node.config
  style : Json.finiteMembers node.style = node.style

namespace NodePayload.Whole

variable {node : NodePayload}

/-- The ports of a type are never none. -/
theorem allPorts_eq (whole : node.Whole) : node.allPorts = node.ports := by
  rw [allPorts, whole.ports, ite_self]

/-- The ports of a type have ids of their own. -/
theorem portsDistinct (whole : node.Whole) : node.PortsDistinct := by
  -- The node has the ports of its type.
  rw [PortsDistinct, whole.ports]
  exact NodePayload.defaultGroups_distinct (.str node.type)

/-- A node with nothing left out is written like the node that it is restored to. -/
theorem toNode_toJson (whole : node.Whole) : node.toNode.toJson = Payload.nodeToJson node := by
  -- With every part given, no fallback comes into play.
  obtain ⟨label, labelled⟩ := Option.isSome_iff_exists.mp whole.labelled
  obtain ⟨text, worded⟩ := Option.isSome_iff_exists.mp whole.worded
  obtain ⟨width, wide⟩ := Option.isSome_iff_exists.mp whole.sized.1
  obtain ⟨height, high⟩ := Option.isSome_iff_exists.mp whole.sized.2
  have position : membersElse Node.homePosition (doubleMembers node.position) =
      doubleMembers node.position := membersElse_doubleMembers whole.placed
  have ports : (node.ports.map PortPayload.toPort).map Port.toJson =
      node.ports.map PortPayload.toJson := by
    -- A port is written through the port that it stands for.
    rw [List.map_map]
    rfl
  simp only [Node.toJson, toNode, Payload.nodeToJson, labelled, worded, wide, high, position,
    whole.allPorts_eq, ports]
  rfl

end NodePayload.Whole

/-- A portable node with the ports of its type is restored from a node with nothing left out. -/
theorem Node.Portable.exists_whole {node : Node} (portable : node.Portable)
    (ports : node.ports = defaultPorts node.type) :
    ∃ source : NodePayload, source.Whole ∧ source.toNode = node := by
  -- Each part of the node tells the part of the payload that it is restored from.
  obtain ⟨id, isId, named⟩ := portable.named
  obtain ⟨type, isType, typed⟩ := portable.typed
  obtain ⟨label, isLabel⟩ := portable.labelled
  obtain ⟨text, isText⟩ := portable.worded
  obtain ⟨position, isPosition, placed⟩ := portable.placed
  obtain ⟨width, height, isWidth, isHeight⟩ := portable.sized
  obtain ⟨config, isConfig, finite⟩ := portable.config
  let source : NodePayload :=
    { id, type, label := some label, text := some text, position, width := some width
      height := some height, ports := (defaultGroups (.str type)).map PortPayload.ofGroup
      config, style := node.style }
  have whole : source.Whole :=
    ⟨named, typed, rfl, rfl, placed, ⟨rfl, rfl⟩, rfl, Json.finiteMembers_eq_self.mpr finite,
      Json.finiteMembers_eq_self.mpr portable.style⟩
  refine ⟨source, whole, ?_⟩
  -- The node is taken apart, so that its parts can be put in their plain form.
  show source.toNode = ⟨node.id, node.type, node.label, node.text, node.position, node.width,
    node.height, node.ports, node.config, node.style, node.oddSteps⟩
  rw [ports, isId, isType, isLabel, isText, isPosition, isWidth, isHeight, isConfig, portable.keyed,
    NodePayload.toNode, membersElse_doubleMembers placed, whole.allPorts_eq, whole.config,
    whole.style, whole.ports, List.map_map]
  rfl

/-- Where nodes have the ports of their types, only texts lead to ports. -/
theorem Document.Coherent.port?_text {document : Document} {allowSelfLoops : Bool}
    (coherent : document.Coherent allowSelfLoops) {node port : Json} {found : Port}
    (lookup : document.port? node port = some found) : ∃ text, port = .str text := by
  obtain ⟨holder, held, located⟩ := Document.port?_eq_some.mp lookup
  have member : found ∈ defaultPorts holder.type := by
    rw [← coherent.ports holder (Document.node?_mem held)]
    exact List.mem_of_find?_eq_some located
  -- A port carries the name of its group.
  obtain ⟨group, -, rfl⟩ := List.mem_map.mp member
  exact ⟨group.name, (Json.core_eq_str port group.name).mp (Document.port?_id lookup).symm⟩

/-- An edge drawn by hand is restored from an edge of a payload. -/
theorem Workspace.Sound.exists_edge {space : Workspace} (sound : space.Sound) {edge : Edge}
    (member : edge ∈ space.document.edges) :
    ∃ source : EdgePayload, source.id ≠ "" ∧ source.toEdge = edge := by
  -- The id was drawn, the nodes are named by texts, and so are the ports.
  have joins := sound.coherent.joins edge member
  obtain ⟨earlier, -, isId⟩ := sound.edgesDrawn edge member
  obtain ⟨first, sourceMember, sourceId⟩ := List.mem_map.mp (sound.coherent.ends edge member).1
  obtain ⟨source, isSource⟩ := sound.named.texts first sourceMember
  obtain ⟨second, targetMember, targetId⟩ := List.mem_map.mp (sound.coherent.ends edge member).2
  obtain ⟨target, isTarget⟩ := sound.named.texts second targetMember
  obtain ⟨_, leaves, -⟩ := joins.leaves
  obtain ⟨sourcePort, isSourcePort⟩ := sound.coherent.port?_text leaves
  obtain ⟨_, enters, -⟩ := joins.enters
  obtain ⟨targetPort, isTargetPort⟩ := sound.coherent.port?_text enters
  refine ⟨⟨_, source, sourcePort, target, targetPort⟩, space.supply.idAfter_ne_empty earlier, ?_⟩
  show _ = Edge.mk edge.id edge.source edge.sourcePort edge.target edge.targetPort
  rw [isId, ← sourceId, isSource, isSourcePort, ← targetId, isTarget, isTargetPort]
  rfl

/-- A payload that stands for a document: it is restored to the nodes and edges of the document,
and nothing is left out of it. -/
structure Payload.StandsFor (payload : Payload) (document : Document) : Prop where
  nodes : payload.nodes.map NodePayload.toNode = document.nodes
  edges : payload.edges.map EdgePayload.toEdge = document.edges
  viewport : payload.viewport = homeViewport
  whole : ∀ node ∈ payload.nodes, node.Whole
  named : ∀ edge ∈ payload.edges, edge.id ≠ ""

/-- Some payload stands for a portable document drawn by hand. -/
theorem Workspace.Sound.exists_payload {space : Workspace} (sound : space.Sound)
    (portable : space.document.Portable) :
    ∃ payload : Payload, payload.StandsFor space.document := by
  -- Each node and each edge has a part that stands for it, and the parts make up a payload.
  obtain ⟨nodes, whole, restoredNodes⟩ := exists_map_eq fun node member =>
    (portable.nodes node member).exists_whole (sound.coherent.ports node member)
  obtain ⟨edges, named, restoredEdges⟩ := exists_map_eq fun edge member => sound.exists_edge member
  exact ⟨⟨nodes, edges, Payload.homeViewport⟩, restoredNodes, restoredEdges, rfl, whole, named⟩

namespace Payload.StandsFor

variable {payload : Payload} {document : Document}

/-- The rules of the importer hold of what was drawn by hand. -/
theorem checkReferences_eq_ok {allowSelfLoops : Bool} (stands : payload.StandsFor document)
    (coherent : document.Coherent allowSelfLoops) : payload.checkReferences = .ok () := by
  -- Ids that differ as values differ as the texts that they are.
  have spelled {α : Type} (items : List α) (key : α → String)
      (distinct : (items.map (Json.str ∘ key)).Nodup) : (items.map key).Nodup := by
    rw [← List.map_map] at distinct
    exact distinct.of_map
  rw [Payload.checkReferences_eq_ok fun node member => (stands.whole node member).portsDistinct]
  refine ⟨?_, ?_, ?_, ?_⟩
  · have ids := coherent.nodeIds
    rw [← stands.nodes, List.map_map] at ids
    exact spelled payload.nodes NodePayload.id ids
  · have ids := coherent.edgeIds
    rw [← stands.edges, List.map_map] at ids
    exact spelled payload.edges EdgePayload.id ids
  · rw [← EdgePayload.ends_nodup, stands.edges]
    exact coherent.connections
  · -- The restored nodes are those of the document, so that the edges join the same ports.
    intro edge member
    have drawn : edge.toEdge ∈ document.edges := stands.edges ▸ List.mem_map_of_mem member
    exact (Document.joins_iff_of_nodes stands.nodes edge.toEdge).mpr (coherent.joins _ drawn)

/-- The document is written from what the payload writes, apart from its view. -/
theorem toJson_eq (stands : payload.StandsFor document) :
    document.toJson = .obj [("nodes", .arr (payload.nodes.map Payload.nodeToJson)),
      ("edges", .arr (payload.edges.map EdgePayload.toJson)),
      ("viewport", .obj document.viewport)] := by
  -- The nodes of the payload are complete, so filling them in has changed nothing.
  have nodes : payload.nodes.map (Node.toJson ∘ NodePayload.toNode) =
      payload.nodes.map Payload.nodeToJson :=
    List.map_congr_left fun node member => (stands.whole node member).toNode_toJson
  rw [Document.toJson, ← stands.nodes, ← stands.edges, List.map_map, List.map_map, nodes]
  rfl

/-- What is restored from the payload differs from the document in the kind of the numbers of its
view at most. -/
theorem toDocument_eq (stands : payload.StandsFor document) :
    payload.toDocument = { document with viewport := doubleMembers Payload.homeViewport } := by
  -- Nodes and edges are restored as they are. Only the view is that of the payload.
  rw [Payload.toDocument, stands.nodes, stands.edges, stands.viewport]
  rfl

end Payload.StandsFor

end Flowchart
