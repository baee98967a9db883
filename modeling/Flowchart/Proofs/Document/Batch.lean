import Mathlib.Data.List.Nodup
import Flowchart.Proofs.Document.Steps

/-! Connections that are asked for one after the other. Each of them is refused or made with a view
to those that were made before it, and still the order in which they are asked for decides neither
which ports are joined in the end nor how many connections are made. -/

namespace Flowchart

/-- A connection that is asked for, from a port of a node to a port of a node. -/
structure ConnectionRequest where
  source : Json
  sourcePort : Json
  target : Json
  targetPort : Json

namespace ConnectionRequest

/-- The edge that a request comes to under an id. -/
def edge (request : ConnectionRequest) (id : Json) : Edge :=
  ⟨id, request.source, request.sourcePort, request.target, request.targetPort⟩

/-- The two ends of the connection. -/
def ends (request : ConnectionRequest) : List Json := (request.edge .null).ends

/-- Whether a request is legal on its own, whatever edges there are: it leads from an output to an
input, and a node feeds itself only where that is allowed. -/
def IsLegal (request : ConnectionRequest) (document : Document) (allowSelfLoops : Bool) : Prop :=
  document.Joins (request.edge .null) ∧
    (allowSelfLoops = true ∨ request.source.equals request.target = false)

/-- The id of an edge has no part in its ends. -/
@[simp] theorem edge_ends (request : ConnectionRequest) (id : Json) :
    (request.edge id).ends = request.ends := rfl

/-- Requests are legal by the nodes of a document alone. -/
theorem isLegal_congr {request : ConnectionRequest} {first second : Document}
    {allowSelfLoops : Bool} (same : first.nodes = second.nodes) :
    request.IsLegal first allowSelfLoops ↔ request.IsLegal second allowSelfLoops :=
  and_congr_left' (Document.joins_iff_of_nodes same _)

end ConnectionRequest

namespace Workspace

/-- Asks for connections one after the other, and gives the edges of those that are made. -/
def connectAll (space : Workspace) : List ConnectionRequest → Workspace × List Edge
  | [] => (space, [])
  | request :: rest =>
    let (next, made) :=
      space.connect request.source request.sourcePort request.target request.targetPort
    let (last, others) := next.connectAll rest
    (last, made.toList ++ others)

/-- What asking for some connections comes to: only edges are added, no ends come twice by them,
and all ends are old ones or those of requests that are legal on their own. -/
structure Gathered (space : Workspace) (requests : List ConnectionRequest) (next : Workspace)
    (made : List Edge) : Prop where
  nodes : next.document.nodes = space.document.nodes
  settings : next.settings = space.settings
  edges : next.document.edges = space.document.edges ++ made
  distinct : (space.document.edges.map Edge.ends).Nodup →
    (next.document.edges.map Edge.ends).Nodup
  ends : ∀ ends, ends ∈ next.document.edges.map Edge.ends ↔
    ends ∈ space.document.edges.map Edge.ends ∨ ∃ request ∈ requests,
      request.IsLegal space.document space.settings.allowSelfLoops ∧ request.ends = ends

section

variable {space next last : Workspace} {requests later : List ConnectionRequest}
  {made others : List Edge}

/-- Nothing comes of asking for nothing. -/
theorem Gathered.nil : space.Gathered [] space [] where
  -- Without a request there is nothing to gather.
  nodes := rfl
  settings := rfl
  edges := (List.append_nil _).symm
  distinct := id
  ends := by simp

/-- What some requests and then some others come to, all of them come to. -/
theorem Gathered.append (first : space.Gathered requests next made)
    (second : next.Gathered later last others) :
    space.Gathered (requests ++ later) last (made ++ others) where
  nodes := second.nodes.trans first.nodes
  settings := second.settings.trans first.settings
  edges := by rw [second.edges, first.edges, List.append_assoc]
  distinct distinct := second.distinct (first.distinct distinct)
  ends ends := by
    -- The nodes stay, so what is legal on its own is so before and after the first requests.
    have legal (request : ConnectionRequest) :
        request.IsLegal next.document next.settings.allowSelfLoops ↔
          request.IsLegal space.document space.settings.allowSelfLoops := by
      rw [first.settings]
      exact ConnectionRequest.isLegal_congr first.nodes
    rw [second.ends, first.ends]
    simp only [legal, List.mem_append, or_and_right, exists_or, or_assoc]

/-- One request: its connection is made if it is legal and no edge has its ends already. -/
theorem connect_gathered (space : Workspace) (request : ConnectionRequest) :
    let (next, made) :=
      space.connect request.source request.sourcePort request.target request.targetPort
    space.Gathered [request] next made.toList := by
  -- The id under which an edge would be made has no part in the rule.
  have joins : space.document.Joins (request.edge space.nextId) ↔
      space.document.Joins (request.edge .null) :=
    Document.joins_withId (request.edge .null) space.nextId
  cases outcome : space.document.connect space.settings.allowSelfLoops space.nextId request.source
      request.sourcePort request.target request.targetPort with
  | none =>
    rw [connect_of_none outcome]
    refine { Gathered.nil with ends := fun ends => ?_, edges := (List.append_nil _).symm }
    -- A legal request is refused only if an edge has its ends.
    have there (legal : request.IsLegal space.document space.settings.allowSelfLoops) :
        request.ends ∈ space.document.edges.map Edge.ends := by
      by_contra fresh
      have accepted : space.document.connect space.settings.allowSelfLoops space.nextId
          request.source request.sourcePort request.target request.targetPort = some (_, _) :=
        Document.connect_eq_some.mpr
          ⟨rfl, rfl, joins.mpr legal.1, fresh, legal.2⟩
      exact absurd (outcome.symm.trans accepted) (by simp)
    simp only [List.mem_singleton, exists_eq_left]
    constructor
    · exact .inl
    · rintro (old | ⟨legal, rfl⟩)
      · exact old
      · exact there legal
  | some result =>
    obtain ⟨document, edge⟩ := result
    obtain ⟨spelled, rfl, joined, fresh, loops⟩ := Document.connect_eq_some.mp outcome
    -- The edge that is made has the ends of the request and the next id.
    change edge = request.edge space.nextId at spelled
    rw [connect_of_some outcome]
    subst spelled
    have legal : request.IsLegal space.document space.settings.allowSelfLoops :=
      ⟨joins.mp joined, loops⟩
    refine ⟨rfl, rfl, rfl, fun distinct => ?_, fun ends => ?_⟩
    · change ((space.document.edges ++ [request.edge space.nextId]).map Edge.ends).Nodup
      rw [List.map_append, List.map_singleton, ← List.concat_eq_append]
      exact distinct.concat fresh
    · change ends ∈ (space.document.edges ++ [request.edge space.nextId]).map Edge.ends ↔ _
      simp [legal, eq_comm]

/-- Requests come to what they come to one by one. -/
theorem connectAll_gathered (space : Workspace) (requests : List ConnectionRequest) :
    space.Gathered requests (space.connectAll requests).1 (space.connectAll requests).2 := by
  -- One request is gathered, and the rest is gathered from where it left the workspace.
  induction requests generalizing space with
  | nil => exact .nil
  | cons request rest ih =>
    exact (space.connect_gathered request).append (ih _)

end

/-- In whatever order some connections are asked for, repeatedly or not: the same ports are joined
in the end, no two edges join the same ports, and as many connections are made. The ports that are
joined are those that were joined before and those of the requests that are legal on their own. -/
theorem connectAll_perm {space : Workspace} {first second : List ConnectionRequest}
    (distinct : (space.document.edges.map Edge.ends).Nodup) (reordered : first.Perm second) :
    ((space.connectAll first).1.document.edges.map Edge.ends).Perm
        ((space.connectAll second).1.document.edges.map Edge.ends) ∧
      ((space.connectAll first).1.document.edges.map Edge.ends).Nodup ∧
      (∀ ends, ends ∈ (space.connectAll first).1.document.edges.map Edge.ends ↔
        ends ∈ space.document.edges.map Edge.ends ∨ ∃ request ∈ first,
          request.IsLegal space.document space.settings.allowSelfLoops ∧ request.ends = ends) ∧
      (space.connectAll first).2.length = (space.connectAll second).2.length := by
  have one := space.connectAll_gathered first
  have two := space.connectAll_gathered second
  -- Both orders gather the same ends, and neither holds any twice.
  have same : ((space.connectAll first).1.document.edges.map Edge.ends).Perm
      ((space.connectAll second).1.document.edges.map Edge.ends) := by
    refine (List.perm_ext_iff_of_nodup (one.distinct distinct) (two.distinct distinct)).mpr ?_
    intro ends
    rw [one.ends, two.ends]
    simp only [reordered.mem_iff]
  have counted := same.length_eq
  rw [one.edges, two.edges] at counted
  simp only [List.map_append, List.length_append, List.length_map] at counted
  exact ⟨same, one.distinct distinct, one.ends, by omega⟩

/-- Four requests at two nodes: one comes again, and one leads from an input. -/
def askedAgain : List ConnectionRequest :=
  [⟨.str "u1", .str "out", .str "u2", .str "in"⟩, ⟨.str "u2", .str "trueOut", .str "u1", .str "in"⟩,
    ⟨.str "u1", .str "out", .str "u2", .str "in"⟩, ⟨.str "u1", .str "in", .str "u2", .str "in"⟩]

/-- Two of the four requests are granted, asked for in their order or backwards. -/
theorem askedAgain_reverse :
    ∃ space : Workspace, (space.document.edges.map Edge.ends).Nodup ∧
      askedAgain.Perm askedAgain.reverse ∧ (space.connectAll askedAgain).2.length = 2 ∧
      ((space.connectAll askedAgain).1.document.edges.map Edge.ends).Perm
        ((space.connectAll askedAgain.reverse).1.document.edges.map Edge.ends) ∧
      (space.connectAll askedAgain).2.length = (space.connectAll askedAgain.reverse).2.length := by
  -- Of three requests one repeats another, so two edges are made in either order.
  let space : Workspace := (start default (.numbered [])).run
    [.addNode (.str "start") .null .null, .addNode (.str "if") (.str "Ask") .null]
  have distinct : (space.document.edges.map Edge.ends).Nodup := List.nodup_nil
  have reordered : askedAgain.Perm askedAgain.reverse := (List.reverse_perm _).symm
  have settled := connectAll_perm distinct reordered
  exact ⟨space, distinct, reordered, by decide +kernel, settled.1, settled.2.2.2⟩

end Workspace

end Flowchart
