import Flowchart.Proofs.Document.Typed
import Flowchart.Proofs.Outcome
import Flowchart.Validation

/-! What it takes for nothing to be found lacking in a document, and for a verdict at all. -/

namespace Flowchart

/-- What a node with an object for its settings lacks can be told. -/
theorem Node.exists_lack {node : Node} (schemas : List Schema) (properties : List Property)
    (startType : Json) {settings : Json.Members} (held : node.config = .obj settings) :
    ∃ lack, node.lack? schemas properties startType = .ok lack := by
  -- Only settings that are no object could be in the way.
  have read : node.settings = .ok settings := by rw [Node.settings, held]
  rw [lack?]
  split
  · exact ⟨none, rfl⟩
  · split
    · rw [conditionLack?, condition?, read]
      exact ⟨_, rfl⟩
    · rw [fieldLack?]
      split
      · exact ⟨none, rfl⟩
      · split
        · exact ⟨none, rfl⟩
        · rw [read]
          exact ⟨_, rfl⟩

namespace Document

variable {schemas : List Schema} {properties : List Property} {startType : Json}

/-- Nothing is found among nodes exactly if each of them lacks nothing. -/
theorem nodeFinding?_eq_none {nodes : List Node} :
    nodeFinding? schemas properties startType nodes = .ok none ↔
      ∀ node ∈ nodes, node.lack? schemas properties startType = .ok none := by
  -- The search goes on to the next node as long as nothing is found.
  induction nodes with
  | nil => simp [nodeFinding?]
  | cons node rest ih =>
    rw [nodeFinding?, List.forall_mem_cons, ← ih]
    cases node.lack? schemas properties startType with
    | error fault => simp [Bind.bind, Except.bind]
    | ok lack => cases lack <;> simp [Bind.bind, Except.bind, Pure.pure, Except.pure]

/-- Nodes are looked at first, and the start only when none of them lacks anything. -/
theorem finding?_eq_ok {document : Document} {singleStart : Bool} {result : Option Finding} :
    document.finding? schemas properties startType singleStart = .ok result ↔
      (∃ finding, nodeFinding? schemas properties startType document.nodes = .ok (some finding) ∧
        result = some finding) ∨
      (∀ node ∈ document.nodes, node.lack? schemas properties startType = .ok none) ∧
        (singleStart = true ∧ document.startFinding? = .ok result ∨
          singleStart = false ∧ result = none) := by
  rw [finding?, bind_eq_ok, ← nodeFinding?_eq_none]
  -- The nodes come first, and the start is looked at only if none of them lacks anything.
  constructor
  · intro found
    obtain ⟨among, told, next⟩ := found
    cases among with
    | some finding =>
      cases next
      exact .inl ⟨finding, told, rfl⟩
    | none =>
      cases singleStart with
      | true => exact .inr ⟨told, .inl ⟨rfl, next⟩⟩
      | false =>
        cases next
        exact .inr ⟨told, .inr ⟨rfl, rfl⟩⟩
  · intro found
    rcases found with ⟨finding, told, rfl⟩ | ⟨told, ⟨rfl, next⟩ | ⟨rfl, rfl⟩⟩
    · exact ⟨some finding, told, rfl⟩
    · exact ⟨none, told, next⟩
    · exact ⟨none, told, rfl⟩

/-- Where nothing is found in a document, no node lacks anything. -/
theorem lack?_of_complete {document : Document} {singleStart : Bool}
    (complete : document.finding? schemas properties startType singleStart = .ok none) :
    ∀ node ∈ document.nodes, node.lack? schemas properties startType = .ok none := by
  -- Had a node lacked something, that would have been found.
  rcases finding?_eq_ok.mp complete with ⟨_, -, found⟩ | ⟨nodes, -⟩
  · cases found
  · exact nodes

/-- A document that passes the strict check passes the check of its start. -/
theorem startFinding?_of_finding? {document : Document}
    (passed : document.finding? schemas properties startType true = .ok none) :
    document.startFinding? = .ok none := by
  -- With a single start asked for, the start was looked at last and passed.
  rcases finding?_eq_ok.mp passed with ⟨_, -, found⟩ | ⟨-, ⟨-, start⟩ | ⟨lax, -⟩⟩
  · cases found
  · exact start
  · cases lax

/-- The check of the start passes if there are no nodes or if there is one root. -/
theorem startFinding?_eq_none {document : Document} :
    document.startFinding? = .ok none ↔
      document.nodes = [] ∨ ∃ root, document.roots = .ok [root] := by
  rw [startFinding?]
  by_cases empty : document.nodes = []
  · simp [empty]
  · rw [if_neg (by simpa using empty), bind_eq_ok, or_iff_right empty]
    constructor
    -- Of the three lengths of the roots only one node alone passes.
    · rintro ⟨roots, found, rest⟩
      rcases roots with _ | ⟨root, _ | ⟨second, others⟩⟩
      · cases rest
      · exact ⟨root, found⟩
      · cases rest
    · rintro ⟨root, found⟩
      exact ⟨[root], found, rfl⟩

/-- What nodes with objects for settings lack can be told. -/
theorem exists_nodeFinding {nodes : List Node}
    (configured : ∀ node ∈ nodes, ∃ settings, node.config = .obj settings) :
    ∃ finding, nodeFinding? schemas properties startType nodes = .ok finding := by
  -- The nodes are gone through up to the first one that lacks something.
  induction nodes with
  | nil => exact ⟨none, rfl⟩
  | cons node rest ih =>
    obtain ⟨⟨settings, held⟩, later⟩ := List.forall_mem_cons.mp configured
    obtain ⟨lack, told⟩ := Node.exists_lack schemas properties startType held
    rw [nodeFinding?, told]
    -- Behind a node that lacks something no other is looked at.
    cases lack with
    | none => exact ih later
    | some lack => exact ⟨some ⟨some node.id, lack⟩, rfl⟩

/-- Whether there is a single start can be told where the roots are found. -/
theorem Keyed.exists_startFinding {document : Document} (keyed : document.Keyed) :
    ∃ finding, document.startFinding? = .ok finding := by
  rw [startFinding?, keyed.roots_eq]
  -- With keyed nodes the roots are known, and each number of them has its answer.
  split
  · exact ⟨none, rfl⟩
  · rcases document.unaimed with _ | ⟨first, _ | ⟨second, rest⟩⟩
    · exact ⟨_, rfl⟩
    · exact ⟨_, rfl⟩
    · exact ⟨_, rfl⟩

/-- What a document lacks can be told if the settings of its nodes are objects and, where its start
counts, the roots are found. -/
theorem exists_finding {document : Document} {singleStart : Bool}
    (configured : ∀ node ∈ document.nodes, ∃ settings, node.config = .obj settings)
    (keyed : singleStart = true → document.Keyed) :
    ∃ finding, document.finding? schemas properties startType singleStart = .ok finding := by
  obtain ⟨among, told⟩ : ∃ among,
      nodeFinding? schemas properties startType document.nodes = .ok among :=
    exists_nodeFinding configured
  rw [finding?, told]
  -- What is found among the nodes is the answer. Otherwise the start is asked, if it is to be.
  cases among with
  | some finding => exact ⟨some finding, rfl⟩
  | none =>
    cases singleStart with
    | false => exact ⟨none, rfl⟩
    | true => exact (keyed rfl).exists_startFinding

end Document

end Flowchart
