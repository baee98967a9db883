import Flowchart.Proofs.Document.Coherence
import Flowchart.Proofs.Document.Typed
import Flowchart.Proofs.Payload.Imported

/-! Documents whose edges run between nodes that are told apart, and where such documents come
from: every import brings one, and every run of edits builds one. -/

namespace Flowchart

namespace Document

/-- No two nodes share an id, and every edge runs between nodes of the document. -/
structure Linked (document : Document) : Prop where
  distinct : (document.nodes.map Node.id).Nodup
  leaves : ∀ edge ∈ document.edges, edge.source ∈ document.nodes.map Node.id
  enters : ∀ edge ∈ document.edges, edge.target ∈ document.nodes.map Node.id

variable {document : Document}

/-- A coherent document is linked. -/
theorem Coherent.linked {allowSelfLoops : Bool} (coherent : document.Coherent allowSelfLoops) :
    document.Linked where
  -- Linked asks for less: distinct ids and ends in the document.
  distinct := coherent.nodeIds
  leaves edge member := (coherent.ends edge member).1
  enters edge member := (coherent.ends edge member).2

/-- The nodes of a linked document are told apart by texts if their ids are texts. -/
theorem Linked.named (linked : document.Linked) (typed : document.Typed) : document.Named where
  -- A typed node has a text for its id.
  texts node member := (typed node member).named
  distinct := linked.distinct

/-- Every id of a typed document is a text. -/
theorem Typed.text_of_mem (typed : document.Typed) {id : Json}
    (member : id ∈ document.nodes.map Node.id) : ∃ text, id = .str text := by
  -- An id in the document is the id of some node.
  obtain ⟨node, listed, rfl⟩ := List.mem_map.mp member
  exact (typed node listed).named

/-- The edges of a linked document lead to the ids of nodes, which are texts in a typed one. -/
theorem Linked.declared (linked : document.Linked) (typed : document.Typed) :
    document.Declared where
  -- An edge ends at a node, and a node has a text for its id.
  typed := typed
  targets edge drawn := typed.text_of_mem (linked.enters edge drawn)

end Document

/-- Every operation but a replacement keeps a document linked. -/
theorem Workspace.run_linked {operations : List Operation}
    (edits : ∀ operation ∈ operations, operation.IsEdit) (settings : Settings)
    (supply : Supply) : ((start settings supply).run operations).document.Linked :=
  (run_sound edits settings supply).1.coherent.linked

/-- A restored node has parts of the kinds they are declared as. -/
theorem NodePayload.toNode_typed (node : NodePayload) : node.toNode.Typed where
  -- A node of a payload has texts for its id and its type and an object for its settings.
  named := ⟨node.id, rfl⟩
  typed := ⟨node.type, rfl⟩
  labelled _ := ⟨node.label.getD "", rfl⟩
  configured := ⟨_, rfl⟩
  keyed _ := rfl

namespace Payload

variable {payload : Payload}

/-- A restored document is typed. -/
theorem toDocument_typed (payload : Payload) : payload.toDocument.Typed := by
  -- Each node comes of a node of the payload, whose fields are typed.
  intro node member
  obtain ⟨given, -, rfl⟩ := List.mem_map.mp member
  exact given.toNode_typed

/-- A document restored from a payload that passes the check is linked. -/
theorem toDocument_linked (checked : payload.checkReferences = .ok ()) :
    payload.toDocument.Linked := by
  obtain ⟨nodeIds, -, -, admits⟩ := checkReferences_iff_admits.mp checked
  have spelled : payload.toDocument.nodes.map Node.id =
      (payload.nodes.map NodePayload.id).map Json.str := by
    simp [toDocument, NodePayload.toNode, Function.comp_def]
  -- The checks of a payload find each end of an edge at one of its nodes.
  have held {id : String} (member : id ∈ payload.nodes.map NodePayload.id) :
      .str id ∈ payload.toDocument.nodes.map Node.id :=
    spelled ▸ List.mem_map_of_mem member
  refine ⟨?_, ?_, ?_⟩
  · rw [spelled]
    exact nodeIds.map fun first second => Json.str.inj
  · intro edge member
    obtain ⟨given, listed, rfl⟩ := List.mem_map.mp member
    obtain ⟨group, leaving, -⟩ := (admits given listed).leaves
    exact held (endGroup_node leaving)
  · intro edge member
    obtain ⟨given, listed, rfl⟩ := List.mem_map.mp member
    exact held (endGroup_node (admits given listed).enters)

end Payload

/-- An imported document is linked and typed. -/
theorem ImportSource.document_linked {source : ImportSource} {document : Document}
    (imported : source.document = .ok document) : document.Linked ∧ document.Typed := by
  -- The payload was checked before it was restored.
  obtain ⟨payload, read, -, rfl⟩ := document_eq_ok.mp imported
  exact ⟨Payload.toDocument_linked (payload_checked read), payload.toDocument_typed⟩

end Flowchart
