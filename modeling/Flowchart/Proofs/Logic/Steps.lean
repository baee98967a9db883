import Mathlib.Tactic.MkIffOfInductiveProp
import Flowchart.Logic
import Flowchart.Proofs.Document.Linked
import Flowchart.Proofs.Outcome

/-! What a node comes to: a step that says what the node says, with a link for each way out of
it. -/

namespace Flowchart

/-- Only what is left out is null. -/
@[simp] theorem Json.null_eq_ofText? {content : Option String} :
    .null = ofText? content ↔ content = none := by
  cases content <;> simp [ofText?]

/-- Only a text that is there is a text. -/
@[simp] theorem Json.str_eq_ofText? {text : String} {content : Option String} :
    .str text = ofText? content ↔ content = some text := by
  cases content <;> simp [ofText?, eq_comm]

namespace LogicStep

/-- The ids that a step leads to. -/
def links (step : LogicStep) : List String :=
  step.next.toList ++ step.nextTrue.toList ++ step.nextFalse.toList

/-- The link of a step through a group of ports. No link leads out of an input. -/
def link? (step : LogicStep) : PortGroup → Option String
  | .input => none
  | .output => step.next
  | .trueOutput => step.nextTrue
  | .falseOutput => step.nextFalse

/-- A link through any group is among the links of the step. -/
theorem mem_links_of_link? {step : LogicStep} {group : PortGroup} {target : String}
    (linked : step.link? group = some target) : target ∈ step.links := by
  -- There is one link for each way out.
  simp only [links, List.mem_append, Option.mem_toList]
  cases group with
  | input => cases linked
  | output => exact .inl (.inl linked)
  | trueOutput => exact .inl (.inr linked)
  | falseOutput => exact .inr linked

end LogicStep

/-- The settings of the step that a node comes to: its own, or the condition of a branch. -/
def Node.stepSettings (node : Node) : Except DocumentFault Json.Members :=
  if node.isBranch then node.condition?.map fun condition => condition.getD [] else node.settings

/-- The settings of a node are an object or they are none. -/
theorem Node.settings_eq_ok {node : Node} {members : Json.Members} :
    node.settings = .ok members ↔ node.config = .obj members := by
  cases held : node.config <;> simp [settings, held]

namespace Document

/-- The link of a node through a group, null where no edge leaves through it. -/
def linkThrough (document : Document) (node : Node) (group : PortGroup) : Json :=
  (document.firstTarget? node group).getD .null

/-- A step says what a node says: it has the id, the type and the label of the node, and its
settings. A branch is linked through the outcomes of its condition, any other node through its
one output. -/
@[mk_iff]
structure Renders (document : Document) (node : Node) (step : LogicStep) : Prop where
  id : node.id = .str step.id
  type : node.type = .str step.type
  label : (if node.label.isTruthy then node.label else .null) = .ofText? step.label
  /-- All keys of the condition of a branch are texts. -/
  keyed : node.isBranch = true → node.oddSteps = []
  settings : node.stepSettings = .ok step.config
  next : (if !node.isBranch then document.linkThrough node .output else .null) =
    .ofText? step.next
  nextTrue : (if node.isBranch then document.linkThrough node .trueOutput else .null) =
    .ofText? step.nextTrue
  nextFalse : (if node.isBranch then document.linkThrough node .falseOutput else .null) =
    .ofText? step.nextFalse

end Document

/-- A step is read exactly if each of its parts is, under its own name. -/
theorem LogicStep.ofFields_eq_ok {settings : Shape Json Json.Members}
    {get : String → Option Json} {step : LogicStep} :
    ofFields settings get = .ok step ↔
      get "id" = some (.str step.id) ∧ get "type" = some (.str step.type) ∧
        (get "label").getD .null = .ofText? step.label ∧
        Shape.withDefault settings [] (Shape.field get "config") = .ok step.config ∧
        (get "next").getD .null = .ofText? step.next ∧
        (Shape.either get "nextTrue" "next_true").value.getD .null = .ofText? step.nextTrue ∧
        (Shape.either get "nextFalse" "next_false").value.getD .null = .ofText? step.nextFalse := by
  -- The record waits for one part after the other, in the order of their names.
  cases step
  simp [ofFields, Checked.part_eq_ok, Checked.build, Shape.field, and_assoc]

namespace Document

/-- The settings of a step are an object, all of whose keys were texts. -/
theorem settingsShape_eq_ok {oddSteps : List PathStep} {value : Json} {members : Json.Members} :
    settingsShape oddSteps value = .ok members ↔ oddSteps = [] ∧ value = .obj members := by
  cases oddSteps <;> simp [settingsShape]

/-- A node comes to the step that says what it says, if there is one. -/
theorem compileNode_eq_ok {document : Document} {node : Node} {step : LogicStep} :
    document.compileNode node = .ok step ↔ document.Renders node step := by
  -- A branch and any other node are linked through ports of their own.
  cases branches : node.isBranch with
  | true =>
    -- The links are looked for only when the condition is found.
    cases held : node.condition? <;>
      simp [renders_iff, linkThrough, compileNode, stepLinks, Node.stepSettings, branches, held,
        Except.map, LogicStep.ofFields_eq_ok, Shape.withDefault, Shape.field, Shape.either,
        Json.Members.get?, settingsShape_eq_ok, Bind.bind, Except.bind, Pure.pure, Except.pure,
        and_assoc]
  | false =>
    simp [renders_iff, linkThrough, compileNode, stepLinks, Node.stepSettings, branches,
      bind_eq_ok, LogicStep.ofFields_eq_ok, Shape.withDefault, Shape.field, Shape.either,
      Json.Members.get?, settingsShape_eq_ok, Node.settings_eq_ok]

variable {document : Document} {node : Node} {step : LogicStep}

/-- What comes to a step is typed. -/
theorem Renders.typed (renders : document.Renders node step) : node.Typed where
  named := ⟨step.id, renders.id⟩
  typed := ⟨step.type, renders.type⟩
  labelled counts := by
    have same := renders.label
    rw [if_pos counts] at same
    -- A label that counts was read as a text.
    cases held : step.label with
    | none =>
      rw [same, held] at counts
      cases counts
    | some label => exact ⟨label, by rw [same, held]; rfl⟩
  configured := by
    -- The condition is looked for in the settings, so that a branch has some, too.
    have held := renders.settings
    simp only [Node.stepSettings, Node.condition?] at held
    split at held
    · obtain ⟨condition, found, -⟩ := map_eq_ok.mp held
      obtain ⟨settings, read, -⟩ := map_eq_ok.mp found
      exact ⟨settings, Node.settings_eq_ok.mp read⟩
    · exact ⟨step.config, Node.settings_eq_ok.mp held⟩
  keyed := renders.keyed

/-- The first target through a group is the target of an edge that leaves the node there. -/
theorem firstTarget?_eq_some {group : PortGroup} {target : Json}
    (found : document.firstTarget? node group = some target) :
    ∃ edge ∈ document.edges, edge.source.equals node.id = true ∧
      document.group? edge = some group ∧ edge.target = target := by
  -- The first hit is one of the edges that leave the node, and it passed the test.
  obtain ⟨edge, first, rfl⟩ := Option.map_eq_some_iff.mp found
  obtain ⟨listed, leaves⟩ := List.mem_filter.mp (List.mem_of_find?_eq_some first)
  have through := List.find?_some first
  exact ⟨edge, listed, leaves, eq_of_beq through, rfl⟩

/-- A link that is a text leads along an edge. -/
theorem linkThrough_eq_str {group : PortGroup} {target : String}
    (linked : document.linkThrough node group = .str target) :
    ∃ edge ∈ document.edges, edge.source.equals node.id = true ∧
      document.group? edge = some group ∧ edge.target = .str target := by
  -- A link is there only if an edge was found.
  apply firstTarget?_eq_some
  cases found : document.firstTarget? node group with
  | none => simp [linkThrough, found] at linked
  | some first => rw [← linked, linkThrough, found, Option.getD_some]

/-- Every link of a step follows an edge that leaves its node. -/
theorem Renders.edge_of_link (renders : document.Renders node step) {link : String}
    (member : link ∈ step.links) :
    ∃ edge ∈ document.edges, edge.source.equals node.id = true ∧ edge.target = .str link := by
  -- A link that is there stands in the place of one of the three.
  have follow {used : Prop} [Decidable used] {group : PortGroup} {present : Option String}
      (same : (if used then document.linkThrough node group else .null) = .ofText? present)
      (held : link ∈ present.toList) :
      ∃ edge ∈ document.edges, edge.source.equals node.id = true ∧ edge.target = .str link := by
    rw [Option.mem_toList.mp held] at same
    split at same
    · obtain ⟨edge, listed, leaves, -, target⟩ := linkThrough_eq_str same
      exact ⟨edge, listed, leaves, target⟩
    · cases same
  simp only [LogicStep.links, List.mem_append] at member
  obtain (next | nextTrue) | nextFalse := member
  · exact follow renders.next next
  · exact follow renders.nextTrue nextTrue
  · exact follow renders.nextFalse nextFalse

/-- A step has the link of its node through every output that nodes of its type have. -/
theorem Renders.linkThrough_eq (renders : document.Renders node step) {group : PortGroup}
    (offered : group ∈ defaultGroups node.type) (output : group ≠ .input) :
    document.linkThrough node group = .ofText? (step.link? group) := by
  -- A branch has two ways out and any other node has one.
  by_cases branches : node.type = branchType
  · have used : node.isBranch = true := by simpa [Node.isBranch] using branches
    simp only [defaultGroups, if_pos branches, List.mem_cons, List.not_mem_nil, or_false,
      output, false_or] at offered
    obtain rfl | rfl := offered
    · simpa [used, LogicStep.link?] using renders.nextTrue
    · simpa [used, LogicStep.link?] using renders.nextFalse
  · have used : node.isBranch = false := by simpa [Node.isBranch] using branches
    simp only [defaultGroups, if_neg branches, List.mem_cons, List.not_mem_nil, or_false,
      output, false_or] at offered
    subst offered
    simpa [used, LogicStep.link?] using renders.next

/-- A step is linked through every output that nodes of its type have. -/
theorem Renders.mem_links (renders : document.Renders node step) {group : PortGroup}
    {target : String} (offered : group ∈ defaultGroups node.type) (output : group ≠ .input)
    (linked : document.linkThrough node group = .str target) : target ∈ step.links := by
  -- The step links where the document does, group by group.
  rw [renders.linkThrough_eq offered output, eq_comm, Json.str_eq_ofText?] at linked
  exact LogicStep.mem_links_of_link? linked

/-- A branch has no link through an output of its own. -/
theorem Renders.next_of_isBranch (renders : document.Renders node step)
    (branches : node.isBranch = true) : step.next = none := by
  simpa [branches] using renders.next

/-- Any other node has no links through outcomes. -/
theorem Renders.outcomes_of_not_isBranch (renders : document.Renders node step)
    (other : node.isBranch = false) : step.nextTrue = none ∧ step.nextFalse = none := by
  exact ⟨by simpa [other] using renders.nextTrue, by simpa [other] using renders.nextFalse⟩

/-- A step has no link where nodes of its type have no way out. -/
theorem Renders.link?_eq_none (renders : document.Renders node step) {group : PortGroup}
    (absent : ¬ (group ∈ defaultGroups node.type ∧ group ≠ .input)) : step.link? group = none := by
  -- The ways out of a branch are no ways out of any other node, and the other way round.
  by_cases branches : node.type = branchType
  · have used : node.isBranch = true := by simpa [Node.isBranch] using branches
    cases group with
    | input => rfl
    | output => exact renders.next_of_isBranch used
    | _ => simp [defaultGroups, branches] at absent
  · have used : node.isBranch = false := by simpa [Node.isBranch] using branches
    obtain ⟨noTrue, noFalse⟩ := renders.outcomes_of_not_isBranch used
    cases group with
    | input => rfl
    | output => simp [defaultGroups, branches] at absent
    | trueOutput => exact noTrue
    | falseOutput => exact noFalse

/-- Every node of a document with parts of the declared kinds comes to a step. -/
theorem Declared.exists_renders (declared : document.Declared) (member : node ∈ document.nodes) :
    ∃ step, document.Renders node step := by
  have kinds := declared.typed node member
  obtain ⟨id, named⟩ := kinds.named
  obtain ⟨type, spelled⟩ := kinds.typed
  obtain ⟨settings, held⟩ := kinds.configured
  -- Each part of the step is found on its own, and none of them can fail for the declared kinds.
  have label : ∃ label, (if node.label.isTruthy then node.label else .null) = .ofText? label := by
    split
    · obtain ⟨label, same⟩ := kinds.labelled ‹_›
      exact ⟨some label, same⟩
    · exact ⟨none, rfl⟩
  have config : ∃ config, node.stepSettings = .ok config := by
    have read := Node.settings_eq_ok.mpr held
    simp only [Node.stepSettings, Node.condition?, read]
    split
    · exact ⟨_, rfl⟩
    · exact ⟨_, rfl⟩
  -- A link is the target of some edge, and targets are texts.
  have link (used : Bool) (group : PortGroup) : ∃ link,
      (if used then document.linkThrough node group else .null) = .ofText? link := by
    split
    · cases found : document.firstTarget? node group with
      | none => exact ⟨none, by rw [linkThrough, found]; rfl⟩
      | some target =>
        obtain ⟨edge, listed, -, -, rfl⟩ := firstTarget?_eq_some found
        obtain ⟨text, same⟩ := declared.targets edge listed
        exact ⟨some text, by rw [linkThrough, found]; exact same⟩
    · exact ⟨none, rfl⟩
  obtain ⟨label, labelled⟩ := label
  obtain ⟨config, configured⟩ := config
  -- A branch uses the two sides and any other node the plain output, and what is unused is null.
  obtain ⟨next, nextLink⟩ := link (!node.isBranch) .output
  obtain ⟨nextTrue, trueLink⟩ := link node.isBranch .trueOutput
  obtain ⟨nextFalse, falseLink⟩ := link node.isBranch .falseOutput
  exact ⟨⟨id, type, label, config, next, nextTrue, nextFalse⟩, named, spelled, labelled,
    kinds.keyed, configured, nextLink, trueLink, falseLink⟩

end Document

end Flowchart
