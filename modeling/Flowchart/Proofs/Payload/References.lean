import Mathlib.Data.List.Nodup
import Flowchart.Proofs.Document.Connection
import Flowchart.Proofs.Payload.Restored

/-! What the check of a payload comes to: ids are distinct, no connection is made twice, and every
edge joins an output to an input, in the restored document too where no two ports share an id. -/

namespace Flowchart

/-- Where one item at most has a key, it does not matter from which side the item is looked for. -/
theorem find?_key_reverse {α β : Type} [BEq β] [LawfulBEq β] {key : α → β} {items : List α}
    {wanted : β} (single : (items.map key).count wanted ≤ 1) :
    items.reverse.find? (fun item => key item == wanted) =
      items.find? fun item => key item == wanted := by
  -- An item that has the key is followed by none that has it.
  induction items with
  | nil => rfl
  | cons item rest ih =>
    rw [List.map_cons, List.count_cons] at single
    rw [List.reverse_cons, List.find?_append, ih (by omega), List.find?_cons]
    cases same : key item == wanted with
    | false => simp [same]
    | true =>
      have absent : wanted ∉ rest.map key := by
        rw [same, if_pos rfl] at single
        exact List.count_eq_zero.mp (by omega)
      have none_left : rest.find? (fun later => key later == wanted) = none := by
        rw [List.find?_eq_none]
        intro later member again
        exact absent (List.mem_map.mpr ⟨later, member, eq_of_beq again⟩)
      simp [none_left, same]

namespace NodePayload

/-- No two ports of a node share an id. -/
def PortsDistinct (node : NodePayload) : Prop := (node.ports.map PortPayload.id).Nodup

/-- The ports of a type have ids of their own. -/
theorem defaultGroups_distinct (type : Json) :
    (((defaultGroups type).map PortPayload.ofGroup).map PortPayload.id).Nodup := by
  -- There are two kinds of nodes, and the ports of each are named apart.
  rw [defaultGroups]
  split <;> decide

/-- Ports that are filled in have ids of their own, too. -/
theorem PortsDistinct.allPorts {node : NodePayload} (distinct : node.PortsDistinct) :
    (node.allPorts.map PortPayload.id).Nodup := by
  -- A node that lists no port of its own has the ports of its type, which differ.
  cases given : node.ports with
  | nil =>
    simp only [NodePayload.allPorts, given, List.isEmpty_nil, if_true]
    exact defaultGroups_distinct (.str node.type)
  | cons first rest =>
    have all : node.allPorts = node.ports := by simp [NodePayload.allPorts, given]
    rw [all]
    exact distinct

/-- No two ports of a node share a given id. -/
def HasOne (node : NodePayload) (port : String) : Prop :=
  (node.allPorts.map PortPayload.id).count port ≤ 1

/-- Where ports have ids of their own, none of them shares its id. -/
theorem PortsDistinct.hasOne {node : NodePayload} (distinct : node.PortsDistinct)
    (port : String) : node.HasOne port :=
  List.nodup_iff_count_le_one.mp distinct.allPorts port

/-- The payload and the restored node give a port that does not share its id the same group. -/
theorem HasOne.group?_eq {node : NodePayload} {port : String} (one : node.HasOne port) :
    (node.toNode.port? (.str port)).map Port.group = node.group? port := by
  -- One looks for the first port of the id and the other for the last, and there is only one.
  rw [group?, find?_key_reverse one, Node.port?, toNode, List.find?_map, Option.map_map]
  have same : (fun candidate : Port => candidate.id.equals (.str port)) ∘ PortPayload.toPort =
      fun candidate : PortPayload => candidate.id == port := by
    funext candidate
    exact Json.str_equals_str candidate.id port
  rw [same]
  rfl

end NodePayload

/-- Edges of a payload join the same ports exactly if the restored edges do. -/
theorem EdgePayload.ends_nodup (edges : List EdgePayload) :
    ((edges.map EdgePayload.toEdge).map Edge.ends).Nodup ↔ (edges.map EdgePayload.ends).Nodup := by
  -- The ends of a restored edge are the four texts of the payload.
  let spelled (ends : String × String × String × String) : List Json :=
    [.str ends.1, .str ends.2.1, .str ends.2.2.1, .str ends.2.2.2]
  have injective : Function.Injective spelled := by
    rintro ⟨a, b, c, d⟩ ⟨a', b', c', d'⟩ same
    simpa [spelled] using same
  have spells (edge : EdgePayload) : edge.toEdge.ends = spelled edge.ends := by
    simp [Edge.ends, toEdge, spelled, ends, Json.core]
  rw [List.map_map, ← List.nodup_map_iff injective, List.map_map]
  simp only [Function.comp_def, spells]

namespace Payload

variable {payload : Payload}

/-- The restored document has the node of an id that the payload has. -/
theorem node?_toDocument (payload : Payload) (id : String) :
    payload.toDocument.node? (.str id) =
      (payload.nodes.find? fun node => node.id == id).map NodePayload.toNode := by
  -- A document compares ids as settings, a payload compares them as texts.
  have same : (fun node : Node => node.id.equals (.str id)) ∘ NodePayload.toNode =
      fun node : NodePayload => node.id == id := by
    funext node
    exact Json.str_equals_str node.id id
  rw [Document.node?, toDocument, List.find?_map, same]

/-- An edge passes on its own: it leaves an output and enters an input, as far as the check sees
the ports. -/
structure Admits (payload : Payload) (edge : EdgePayload) : Prop where
  leaves : ∃ group, endGroup payload.nodes edge.id edge.source edge.sourcePort = .ok group ∧
    group ≠ .input
  enters : endGroup payload.nodes edge.id edge.target edge.targetPort = .ok .input

/-- The end of an edge has a group only if its node is there. -/
theorem endGroup_node {edge node port : String} {group : PortGroup}
    (ended : endGroup payload.nodes edge node port = .ok group) :
    node ∈ payload.nodes.map NodePayload.id := by
  rw [endGroup] at ended
  -- An end that is found has a group only through the node that holds its port.
  cases located : payload.nodes.find? fun candidate => candidate.id == node with
  | none => simp [located] at ended
  | some holder =>
    have same := List.find?_some (p := fun candidate : NodePayload => candidate.id == node) located
    exact List.mem_map.mpr ⟨holder, List.mem_of_find?_eq_some located, eq_of_beq same⟩

/-- The end of an edge has a group for the check if its port has it in the restored document. -/
theorem endGroup_eq_ok {edge node port : String} {group : PortGroup}
    (one : ∀ holder ∈ payload.nodes, holder.id = node → holder.HasOne port) :
    endGroup payload.nodes edge node port = .ok group ↔
      ∃ found, payload.toDocument.port? (.str node) (.str port) = some found ∧
        found.group = group := by
  rw [← Option.map_eq_some_iff, Document.port?, node?_toDocument, endGroup]
  -- The first node of the id decides on both sides. With one port of the id at most, the last port
  -- of it is also the first.
  cases located : payload.nodes.find? fun candidate => candidate.id == node with
  | none => simp
  | some holder =>
    have named := List.find?_some (p := fun candidate : NodePayload => candidate.id == node) located
    have same := (one holder (List.mem_of_find?_eq_some located) (eq_of_beq named)).group?_eq
    simp only [Option.map_some, Option.bind_some, same]
    cases holder.group? port <;> simp

/-- Where the ports at the ends of an edge do not share their ids, the edge passes on its own
exactly if it joins an output to an input of the restored document. -/
theorem admits_iff_joins {edge : EdgePayload}
    (source : ∀ node ∈ payload.nodes, node.id = edge.source → node.HasOne edge.sourcePort)
    (target : ∀ node ∈ payload.nodes, node.id = edge.target → node.HasOne edge.targetPort) :
    payload.Admits edge ↔ payload.toDocument.Joins edge.toEdge := by
  -- Each half is asked end by end: the payload answers with groups, the document with ports.
  constructor
  · rintro ⟨⟨group, leaving, output⟩, entering⟩
    obtain ⟨port, found, same⟩ := (endGroup_eq_ok source).mp leaving
    exact ⟨⟨port, found, same ▸ output⟩, (endGroup_eq_ok target).mp entering⟩
  · intro joins
    obtain ⟨port, found, output⟩ := joins.leaves
    exact ⟨⟨port.group, (endGroup_eq_ok source).mpr ⟨port, found, rfl⟩, output⟩,
      (endGroup_eq_ok target).mpr joins.enters⟩

/-- One edge passes if its id and its ends are new and it passes on its own. -/
theorem checkEdge_eq_ok {before : List EdgePayload} {edge : EdgePayload} :
    checkEdge payload.nodes before edge = .ok () ↔
      edge.id ∉ before.map EdgePayload.id ∧ payload.Admits edge ∧
        edge.ends ∉ before.map EdgePayload.ends := by
  -- The check asks by boolean search what the statement says by membership.
  have ids : (before.any fun earlier => earlier.id == edge.id) = true ↔
      edge.id ∈ before.map EdgePayload.id := by
    simp [List.any_eq_true]
  have ends : (before.any fun earlier => earlier.ends == edge.ends) = true ↔
      edge.ends ∈ before.map EdgePayload.ends := by
    simp [List.any_eq_true]
  have admits : payload.Admits edge ↔
      (∃ group, endGroup payload.nodes edge.id edge.source edge.sourcePort = .ok group ∧
        group ≠ .input) ∧
      endGroup payload.nodes edge.id edge.target edge.targetPort = .ok .input :=
    ⟨fun admits => ⟨admits.leaves, admits.enters⟩, fun both => ⟨both.1, both.2⟩⟩
  rw [admits]
  simp only [checkEdge, ids, ends]
  -- The check stops at the first rule that is broken.
  by_cases known : edge.id ∈ before.map EdgePayload.id
  · simp [known, throw, throwThe, MonadExceptOf.throw, Bind.bind, Except.bind]
  · simp only [known, if_false, not_false_eq_true, true_and]
    cases leaving : endGroup payload.nodes edge.id edge.source edge.sourcePort with
    | error fault => simp [Bind.bind, Except.bind]
    | ok source =>
      cases entering : endGroup payload.nodes edge.id edge.target edge.targetPort with
      | error fault => simp [Bind.bind, Except.bind]
      | ok target =>
        by_cases output : source = .input <;> by_cases input : target = .input <;>
          by_cases again : edge.ends ∈ before.map EdgePayload.ends <;>
          simp [output, input, again, throw, throwThe, MonadExceptOf.throw, Bind.bind,
            Except.bind, Pure.pure, Except.pure]

/-- Edges pass, given those before them, if all of them together keep the rules. -/
theorem checkEdges_eq_ok {before edges : List EdgePayload}
    (ids : (before.map EdgePayload.id).Nodup) (ends : (before.map EdgePayload.ends).Nodup) :
    checkEdges payload.nodes before edges = .ok () ↔
      ((before ++ edges).map EdgePayload.id).Nodup ∧
        ((before ++ edges).map EdgePayload.ends).Nodup ∧
        ∀ edge ∈ edges, payload.Admits edge := by
  -- Each edge that passes joins those before it, so these stay free.
  induction edges generalizing before with
  | nil => simp [checkEdges, ids, ends]
  | cons edge rest ih =>
    -- What no earlier edge shows is added to the keys without a repetition, and only that.
    have grown {β : Type} (key : EdgePayload → β) :
        ((before ++ [edge]).map key).Nodup ↔
          key edge ∉ before.map key ∧ (before.map key).Nodup := by
      rw [List.map_append, List.map_cons, List.map_nil, List.nodup_append_comm,
        List.singleton_append, List.nodup_cons]
    have split {β : Type} (key : EdgePayload → β)
        (all : ((before ++ edge :: rest).map key).Nodup) : key edge ∉ before.map key := by
      rw [List.append_cons, List.map_append] at all
      exact ((grown key).mp all.of_append_left).1
    rw [checkEdges]
    cases outcome : checkEdge payload.nodes before edge with
    | error fault =>
      have failed : checkEdge payload.nodes before edge ≠ .ok () := by simp [outcome]
      rw [Ne, checkEdge_eq_ok] at failed
      simp only [reduceCtorEq, false_iff]
      rintro ⟨allIds, allEnds, admits⟩
      exact failed ⟨split _ allIds, admits edge List.mem_cons_self, split _ allEnds⟩
    | ok passed =>
      -- The edge that passed counts as earlier for the rest, and the two lists are one again.
      obtain ⟨newId, admits, newEnds⟩ := checkEdge_eq_ok.mp outcome
      simp only [ih ((grown _).mpr ⟨newId, ids⟩) ((grown _).mpr ⟨newEnds, ends⟩),
        List.append_assoc, List.singleton_append, List.forall_mem_cons, admits, true_and]

/-- No id comes again exactly if all of them differ, from each other and from those before. -/
theorem duplicate?_eq_none {before ids : List String} :
    duplicate? before ids = none ↔ ids.Nodup ∧ ∀ id ∈ ids, id ∉ before := by
  induction ids generalizing before with
  | nil => simp [duplicate?]
  | cons id rest ih =>
    -- The ids seen so far grow by the first, so the rest avoids it as it avoids them.
    by_cases known : id ∈ before
    · simp [duplicate?, known]
    · simp only [duplicate?, List.contains_iff_mem, known, if_false, ih, List.nodup_cons,
        List.mem_cons, not_or]
      constructor
      · rintro ⟨differ, fresh⟩
        refine ⟨⟨fun member => (fresh id member).1 rfl, differ⟩, ?_⟩
        rintro later (rfl | member)
        · exact known
        · exact (fresh later member).2
      · rintro ⟨⟨first, differ⟩, fresh⟩
        exact ⟨differ, fun later member =>
          ⟨fun same => first (same ▸ member), fresh later (.inr member)⟩⟩

/-- A payload passes the check exactly if its ids are distinct, no connection is made twice, and
every edge passes on its own. -/
theorem checkReferences_iff_admits :
    payload.checkReferences = .ok () ↔
      (payload.nodes.map NodePayload.id).Nodup ∧ (payload.edges.map EdgePayload.id).Nodup ∧
        (payload.edges.map EdgePayload.ends).Nodup ∧
        ∀ edge ∈ payload.edges, payload.Admits edge := by
  have edges := @checkEdges_eq_ok payload [] payload.edges List.nodup_nil List.nodup_nil
  have nodes := @duplicate?_eq_none [] (payload.nodes.map NodePayload.id)
  simp only [List.not_mem_nil, not_false_eq_true, implies_true, and_true] at nodes
  rw [checkReferences]
  -- The nodes are checked first. Where an id repeats, neither side holds.
  cases repeated : duplicate? [] (payload.nodes.map NodePayload.id) with
  | some id =>
    have differ : ¬ (payload.nodes.map NodePayload.id).Nodup := by
      rw [← nodes, repeated]
      simp
    simp [differ]
  | none => simp [nodes.mp repeated, edges]

/-- Where no node has two ports of one id, a payload passes the check exactly if its ids are
distinct, no connection is made twice, and every edge joins an output to an input. -/
theorem checkReferences_eq_ok (distinct : ∀ node ∈ payload.nodes, node.PortsDistinct) :
    payload.checkReferences = .ok () ↔
      (payload.nodes.map NodePayload.id).Nodup ∧ (payload.edges.map EdgePayload.id).Nodup ∧
        (payload.edges.map EdgePayload.ends).Nodup ∧
        ∀ edge ∈ payload.edges, payload.toDocument.Joins edge.toEdge := by
  -- Where the ports of every node differ, the payload and its document agree on each edge.
  have joins (edge : EdgePayload) : payload.Admits edge ↔ payload.toDocument.Joins edge.toEdge :=
    admits_iff_joins (fun node member _ => (distinct node member).hasOne edge.sourcePort)
      fun node member _ => (distinct node member).hasOne edge.targetPort
  rw [checkReferences_iff_admits]
  simp only [joins]

end Payload

end Flowchart
