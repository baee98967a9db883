import Flowchart.Import
import Flowchart.Proofs.Payload.Reading
import Flowchart.Proofs.Payload.References

/-! What is known of an imported document: it is restored from a payload that passed the check, so
that its edges join outputs to inputs, unless two ports of a node share the id that an edge uses. -/

namespace Flowchart

/-- A payload is read from a value only if it passes the check of its references. -/
theorem Payload.shape_checked {value : Json} {payload : Payload}
    (read : Payload.shape value = .ok payload) : payload.checkReferences = .ok () := by
  -- The check is the last step of reading.
  obtain ⟨_, _, _, passed⟩ := shape_eq_ok.mp read
  exact passed

namespace ImportSource

variable {source : ImportSource} {payload : Payload}

/-- Whatever is read of a source has passed the check. -/
theorem payload_checked (read : source.payload = .ok payload) :
    payload.checkReferences = .ok () := by
  -- What was parsed is unwrapped, and what was unwrapped is read.
  obtain ⟨value, -, rest⟩ := bind_eq_ok.mp read
  obtain ⟨members, -, shaped⟩ := bind_eq_ok.mp rest
  exact Payload.shape_checked (mapError_eq_ok.mp shaped)

/-- Whatever is read of a source is restored, unless it holds a value that is nested too deep. -/
theorem document_of_payload (read : source.payload = .ok payload) :
    source.document =
      if payload.isShallow then .ok payload.toDocument else .error (.unwritable .tooDeep) := by
  -- A payload that can be written is restored without fail.
  simp only [document, read, Payload.written, Bind.bind, Except.bind]
  cases payload.isShallow with
  | true => exact mapError_eq_ok.mpr payload.ofJson_toJson
  | false => rfl

/-- What is read of a source and is not nested too deep is restored. -/
theorem document_of_shallow (read : source.payload = .ok payload)
    (shallow : payload.isShallow = true) : source.document = .ok payload.toDocument := by
  rw [document_of_payload read, if_pos shallow]

/-- What is nested too deep is not restored. -/
theorem document_of_deep (read : source.payload = .ok payload)
    (deep : payload.isShallow = false) :
    source.document = .error (.unwritable .tooDeep) := by
  -- A value that is too deep is all that can stop it here.
  rw [document_of_payload read, deep]
  rfl

/-- An imported document is what the payload of its source is restored to. -/
theorem document_eq_ok {document : Document} :
    source.document = .ok document ↔
      ∃ payload, source.payload = .ok payload ∧ payload.isShallow = true ∧
        document = payload.toDocument := by
  constructor
  · intro imported
    obtain ⟨payload, read, -⟩ := bind_eq_ok.mp imported
    rw [document_of_payload read] at imported
    -- A payload that is nested too deep comes to no document.
    split_ifs at imported with shallow
    exact ⟨payload, read, shallow, (Except.ok.inj imported).symm⟩
  · rintro ⟨payload, read, shallow, rfl⟩
    exact document_of_shallow read shallow

/-- Every payload that is read is restored, unless a value in it is nested too deep. The importer
finds an output and an input at the ends of each edge; an id that no two ports of a node share leads
the document to a port of the same group; so the edges whose ends are named by such ids obey the
rules in the document, too. -/
theorem import_joins (read : source.payload = .ok payload) :
    (source.document =
        if payload.isShallow then .ok payload.toDocument else .error (.unwritable .tooDeep)) ∧
      (∀ edge ∈ payload.edges, payload.Admits edge) ∧
      (∀ node ∈ payload.nodes, ∀ port, node.HasOne port →
        (node.toNode.port? (.str port)).map Port.group = node.group? port) ∧
      ∀ edge ∈ payload.edges,
        (∀ node ∈ payload.nodes, node.id = edge.source → node.HasOne edge.sourcePort) →
        (∀ node ∈ payload.nodes, node.id = edge.target → node.HasOne edge.targetPort) →
        payload.toDocument.Joins edge.toEdge := by
  -- The check of the references is what the importer knows of the edges.
  obtain ⟨-, -, -, admits⟩ := Payload.checkReferences_iff_admits.mp (payload_checked read)
  refine ⟨document_of_payload read, admits, fun node _ port one => one.group?_eq, ?_⟩
  intro edge member source target
  exact (Payload.admits_iff_joins source target).mp (admits edge member)

end ImportSource

/-- Two steps and an edge between them; the ports of the first step are given. -/
def Payload.twoSteps (ports : List PortPayload) : Payload where
  nodes := [⟨"a", "step", none, none, [], none, none, ports, [], []⟩,
    ⟨"b", "step", none, none, [], none, none, [], [], []⟩]
  edges := [⟨"e", "a", "p", "b", "in"⟩]
  viewport := []

namespace ImportSource

/-- Between ports with ids of their own the edge joins an output to an input. -/
theorem twoSteps_joins :
    let payload := Payload.twoSteps [⟨"p", .output⟩, ⟨"q", .output⟩]
    (value payload.toJson).payload = .ok payload ∧
      ∀ edge ∈ payload.edges,
        (∀ node ∈ payload.nodes, node.id = edge.source → node.HasOne edge.sourcePort) ∧
        (∀ node ∈ payload.nodes, node.id = edge.target → node.HasOne edge.targetPort) ∧
        payload.toDocument.Joins edge.toEdge := by
  intro payload
  have read : (value payload.toJson).payload = .ok payload := rfl
  refine ⟨read, fun edge member => ?_⟩
  -- The first step has two ports under two ids, and the second has those of its type.
  have one : ∀ node ∈ payload.nodes, ∀ port, node.HasOne port := by
    intro node listed port
    apply List.nodup_iff_count_le_one.mp
    have distinct : ∀ node ∈ payload.nodes, (node.allPorts.map PortPayload.id).Nodup := by decide
    exact distinct node listed
  have source := fun node listed (_ : NodePayload.id node = edge.source) =>
    one node listed edge.sourcePort
  have target := fun node listed (_ : NodePayload.id node = edge.target) =>
    one node listed edge.targetPort
  exact ⟨source, target, (import_joins read).2.2.2 edge member source target⟩

/-- Where an input and an output share an id, the importer sees the output, which comes last, and
the document sees the input, which comes first: the edge leaves an input. -/
theorem twoSteps_leavesInput :
    let payload := Payload.twoSteps [⟨"p", .input⟩, ⟨"p", .output⟩]
    (value payload.toJson).payload = .ok payload ∧
      (value payload.toJson).document = .ok payload.toDocument ∧
      ∃ edge ∈ payload.edges, payload.toDocument.group? edge.toEdge = some .input :=
  -- The check sees the last port of the id, and the document the first.
  ⟨rfl, rfl, _, List.mem_singleton_self _, rfl⟩

end ImportSource

end Flowchart
