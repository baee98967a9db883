import Flowchart.Export
import Flowchart.Proofs.Completeness
import Flowchart.Proofs.Export.Standing
import Flowchart.Proofs.Payload.Depth
import Flowchart.Proofs.Payload.Imported

/-! What is exported of a document that was built by hand is imported again, and comes to the same
logic, unless its settings are nested deeper than the importer follows. -/

namespace Flowchart

namespace Compiler

variable {compiler : Compiler} {document : Document}

/-- Logic is given out if nothing is lacking and the document comes to it. -/
theorem logic?_eq_some {logic : Logic} : compiler.logic? document = .ok (some logic) ↔
    compiler.finding? document = .ok none ∧ document.compile = .ok logic := by
  rw [logic?, bind_eq_ok]
  constructor
  · rintro ⟨finding, found, rest⟩
    -- Whatever is found keeps the logic back.
    cases finding with
    | some finding => cases rest
    | none =>
      obtain ⟨given, compiled, same⟩ := bind_eq_ok.mp rest
      cases same
      exact ⟨found, compiled⟩
  · rintro ⟨complete, compiled⟩
    exact ⟨none, complete, bind_eq_ok.mpr ⟨logic, compiled, rfl⟩⟩

/-- Logic is given out together with the document that it comes from. -/
theorem data?_eq_some {data : Json} : compiler.data? document = .ok (some data) ↔
    compiler.finding? document = .ok none ∧
      ∃ logic, document.compile = .ok logic ∧ data = bundle document logic := by
  -- The data is the logic with the document beside it, and there is none without logic.
  have mapped : compiler.data? document = .ok (some data) ↔
      ∃ logic, compiler.logic? document = .ok (some logic) ∧ data = bundle document logic := by
    rw [data?, bind_eq_ok]
    constructor
    · rintro ⟨given, came, same⟩
      obtain ⟨logic, rfl, rfl⟩ := Option.map_eq_some_iff.mp (Except.ok.inj same)
      exact ⟨logic, came, rfl⟩
    · rintro ⟨logic, came, rfl⟩
      exact ⟨some logic, came, rfl⟩
  simp only [mapped, logic?_eq_some, and_assoc, exists_and_left]

end Compiler

namespace Payload.StandsFor

variable {payload : Payload} {document : Document}

/-- The payload of a document of which nothing is found lacking is legible. -/
theorem legible (stands : payload.StandsFor document) {compiler : Compiler}
    (apart : compiler.settings.startNodeType ≠ "if")
    (complete : compiler.finding? document = .ok none) :
    ∀ node ∈ payload.nodes, node.Legible := by
  intro node member
  have whole := stands.whole node member
  refine ⟨whole.named, whole.typed, ?_, whole.config, whole.style⟩
  have held : node.toNode ∈ document.nodes := stands.nodes ▸ List.mem_map_of_mem member
  have complete := Document.lack?_of_complete complete node.toNode held
  -- Only a branch has a rule on its condition, and a branch without one would have been found.
  by_cases branches : Json.str node.type = branchType
  · have other : node.toNode.type.equals (.str compiler.settings.startNodeType) = false := by
      rw [NodePayload.toNode, branches, branchType, Json.str_equals_str]
      exact beq_eq_false_iff_ne.mpr apart.symm
    obtain ⟨settings, condition, configured, stored, -⟩ :=
      (Node.lack?_eq_none.mp complete).condition other (decide_eq_true branches)
    cases configured
    rw [whole.config] at stored
    simp [NodePayload.hasConditionShape, stored]
  · simp [NodePayload.hasConditionShape, branches]

/-- The payload is what the written document is read as. -/
theorem shape_toJson (stands : payload.StandsFor document) {allowSelfLoops : Bool}
    (coherent : document.Coherent allowSelfLoops) (legible : ∀ node ∈ payload.nodes, node.Legible)
    (view : document.viewport = Document.homeViewport) :
    Payload.shape document.toJson = .ok payload := by
  -- The view that documents are drawn in is read as doubles.
  have doubles : Shape.objectOf Shape.double (Json.obj document.viewport) =
      .ok payload.viewport := by
    rw [view, stands.viewport]
    rfl
  rw [stands.toJson_eq]
  exact Payload.shape_members legible stands.named (stands.checkReferences_eq_ok coherent) doubles

end Payload.StandsFor

namespace ImportSource

/-- A written document is found where it stands by itself. -/
theorem graph_toJson (document : Document) :
    ∃ members, document.toJson = .obj members ∧ graph document.toJson = .ok members :=
  ⟨_, rfl, rfl⟩

/-- A written document is found in the bundle with its logic. -/
theorem graph_bundle (document : Document) (logic : Logic) :
    graph (Compiler.bundle document logic) = graph document.toJson := rfl

/-- What is read from a value depends on the members of the object that holds the nodes. -/
theorem payload_of_graph {value : Json} {members : Json.Members} {payload : Payload}
    (untyped : ∀ text, value ≠ .str text) (found : graph value = .ok members)
    (read : Payload.shape (Json.obj members) = .ok payload) :
    (ImportSource.value value).payload = .ok payload := by
  -- A value that is a text would be read as one first.
  have given : toJson (.value value) = .ok value := by
    cases value with
    | str text => exact absurd rfl (untyped text)
    | _ => rfl
  exact bind_eq_ok.mpr ⟨value, given, bind_eq_ok.mpr ⟨members, found, mapError_eq_ok.mpr read⟩⟩

end ImportSource

/-- Two objects have the same keys in the same order, and under them numbers of the same value,
whatever the kind of these numbers. -/
def SameNumbers (first second : Json.Members) : Prop :=
  List.Forall₂ (fun one other => one.1 = other.1 ∧
    ∃ number same, one.2 = .num number ∧ other.2 = .num same ∧ number.sameValue same = true)
    first second

/-- The view of a fresh canvas shows the same whether it is told in whole numbers or in doubles. -/
theorem homeViewport_sameNumbers :
    SameNumbers (doubleMembers Payload.homeViewport) Document.homeViewport :=
  -- Each of the three whole numbers is compared with its double.
  .cons ⟨rfl, _, _, rfl, rfl, by decide +kernel⟩ <|
    .cons ⟨rfl, _, _, rfl, rfl, by decide +kernel⟩ <|
      .cons ⟨rfl, _, _, rfl, rfl, by decide +kernel⟩ .nil

/-- The view of a document has no part in what the document lacks. -/
theorem Compiler.finding?_withViewport (compiler : Compiler) (document : Document)
    (viewport : Json.Members) :
    compiler.finding? { document with viewport } = compiler.finding? document := rfl

/-- The view of a document has no part in its logic. -/
theorem Document.compile_withViewport (document : Document) (viewport : Json.Members) :
    ({ document with viewport } : Document).compile = document.compile := rfl

namespace Workspace

/-- A start, a question with its condition, and a call where the answer is yes. -/
def askingFirst : List Operation :=
  [.addNode (.str "start") .null .null, .addNode (.str "if") .null .null,
    .addNode (.str "http") (.str "Call") .null,
    .connect (.str "u1") (.str "out") (.str "u2") (.str "in"),
    .connect (.str "u2") (.str "trueOut") (.str "u3") (.str "in"),
    .setCondition (.str "u2") (.obj [("propertyId", .str "age"), ("operator", .str "gt"),
      ("value", .int 18)]) (.str "age > 18"),
    .updateNode (.str "u3") (.obj [("url", .str "/adults")]) .null]

/-- A step, the settings of which are put three hundred lists deep. -/
def deepening : List Operation :=
  [.addNode (.str "http") .null .null,
    .updateNode (.str "u1") (.obj [("rows", Json.nested 300)]) .null]

end Workspace

end Flowchart
