import Flowchart.Proofs.Export.RoundTrip
import Flowchart.Proofs.Logic.Dependence

/-! Importing again. What a document from outside leaves out is filled in when it is imported. The
document that comes of it is accepted in its turn, and it is filled already: only numbers that were
filled in as whole ones become doubles. -/

namespace Flowchart

namespace Json

mutual

/-- What was cleared of doubles that are not finite has none left. -/
theorem finite_finite : (value : Json) → value.finite.finite = value.finite
  | .null => rfl
  | .bool _ => rfl
  | .num (.int _) => rfl
  | .num (.float x) => by
    -- A number that is not finite has become null by then.
    by_cases bounded : x.isFinite <;> simp [finite, bounded]
  | .str _ => rfl
  | .arr items => congrArg Json.arr (finiteItems_finiteItems items)
  | .obj members => congrArg Json.obj (finiteMembers_finiteMembers members)

/-- Items that were cleared of doubles that are not finite have none left. -/
theorem finiteItems_finiteItems : (items : List Json) →
    finiteItems (finiteItems items) = finiteItems items
  | [] => rfl
  | item :: rest => by
    rw [finiteItems, finiteItems, finite_finite item, finiteItems_finiteItems rest]

/-- Members that were cleared of doubles that are not finite have none left. -/
theorem finiteMembers_finiteMembers : (members : List (String × Json)) →
    finiteMembers (finiteMembers members) = finiteMembers members
  | [] => rfl
  | (key, value) :: rest => by
    rw [finiteMembers, finiteMembers, finite_finite value, finiteMembers_finiteMembers rest]

end

/-- Clearing an object of doubles that are not finite keeps its keys. -/
theorem getOrNull_finiteMembers (members : Members) (key : String) :
    Members.getOrNull (finiteMembers members) key = (members.getOrNull key).finite := by
  induction members with
  | nil => rfl
  | cons first rest ih =>
    obtain ⟨name, value⟩ := first
    simp only [Members.getOrNull, Members.get?, finiteMembers, List.find?_cons] at ih ⊢
    -- Keys stay, so the search for one ends where it did.
    split
    · rfl
    · exact ih

end Json

/-- Named doubles, or others if there are none. -/
def doublesElse (fallback doubles : List (String × Float)) : List (String × Float) :=
  if doubles.isEmpty then fallback else doubles

/-- A node with everything filled in that it leaves out. -/
def NodePayload.filled (node : NodePayload) : NodePayload where
  id := node.id
  type := node.type
  label := some (node.label.getD "")
  text := some (node.text.getD "")
  position := doublesElse homePosition node.position
  width := some (node.width.getD 160.0)
  height := some (node.height.getD 70.0)
  ports := node.allPorts
  config := Json.finiteMembers node.config
  style := Json.finiteMembers node.style

/-- A document with everything filled in that it leaves out. -/
def Payload.filled (payload : Payload) : Payload where
  nodes := payload.nodes.map NodePayload.filled
  edges := payload.edges
  viewport := doublesElse homeViewport payload.viewport

/-- A node is as deep as it was when everything is filled in. -/
theorem NodePayload.isShallow_filled (node : NodePayload) :
    node.filled.isShallow = node.isShallow := by
  simp [isShallow, filled, Json.depthOfMembers_finiteMembers]

/-- A payload is as deep as it was when everything is filled in. -/
theorem Payload.isShallow_filled (payload : Payload) :
    payload.filled.isShallow = payload.isShallow := by
  -- What is filled in is no setting and no style.
  have each : NodePayload.isShallow ∘ NodePayload.filled = NodePayload.isShallow :=
    funext NodePayload.isShallow_filled
  rw [isShallow, filled, List.all_map, each, isShallow]

/-- What is filled in is there. -/
theorem doublesElse_doublesElse {fallback doubles : List (String × Float)} :
    doublesElse fallback (doublesElse fallback doubles) = doublesElse fallback doubles := by
  -- Only nothing falls back, and what it falls back on stays, or is nothing again.
  cases doubles with
  | nil => cases fallback <;> rfl
  | cons double rest => rfl

namespace NodePayload

/-- Ports that were filled in are not filled in again. -/
theorem allPorts_filled (node : NodePayload) : node.filled.allPorts = node.allPorts := by
  show (if node.allPorts.isEmpty then _ else node.allPorts) = node.allPorts
  cases given : node.ports with
  | nil =>
    -- The ports of the type are filled in for none, and would be so again.
    have all : node.allPorts = (defaultGroups (.str node.type)).map PortPayload.ofGroup := by
      rw [allPorts, given]
      rfl
    rw [all]
    exact ite_self _
  | cons port rest =>
    have all : node.allPorts = port :: rest := by
      rw [allPorts, given]
      rfl
    rw [all]
    rfl

/-- A node that is filled in has nothing to be filled in. -/
theorem filled_filled (node : NodePayload) : node.filled.filled = node.filled := by
  -- Each field falls back once, and what it fell back on is kept.
  rw [filled, allPorts_filled]
  simp only [filled, Option.getD_some, doublesElse_doublesElse, Json.finiteMembers_finiteMembers]

/-- A condition keeps its shape when its numbers are cleared. -/
theorem hasConditionShape_filled {node : NodePayload} (shaped : node.hasConditionShape = true) :
    node.filled.hasConditionShape = true := by
  by_cases branches : Json.str node.type = branchType
  · -- Null and objects are what is left, and they stay what they are.
    simp only [hasConditionShape, filled, Json.getOrNull_finiteMembers, branches, ne_eq,
      not_true_eq_false, decide_false, Bool.false_or] at shaped ⊢
    cases held : node.config.getOrNull conditionKey <;> rw [held] at shaped
    case null => rfl
    case obj members => rfl
    all_goals cases shaped
  -- No other node is asked for a condition.
  · simp [hasConditionShape, filled, branches]

end NodePayload

/-- A node keeps the rules for single nodes. -/
structure NodePayload.Acceptable (node : NodePayload) : Prop where
  named : node.id ≠ ""
  typed : node.type ≠ ""
  shaped : node.hasConditionShape = true

/-- A document keeps the rules of the importer. -/
structure Payload.Acceptable (payload : Payload) : Prop where
  nodes : ∀ node ∈ payload.nodes, node.Acceptable
  edges : ∀ edge ∈ payload.edges, edge.id ≠ ""
  rules : payload.checkReferences = .ok ()

namespace NodePayload

/-- A node that is read keeps the rules for single nodes. -/
theorem acceptable_of_shape {value : Json} {node : NodePayload} (read : shape value = .ok node) :
    node.Acceptable := by
  -- The two texts were read as texts that are not empty.
  obtain ⟨members, -, parts, shaped⟩ := shape_eq_ok.mp read
  exact ⟨(Shape.required_nonemptyText_eq_ok.mp parts.id).2,
    (Shape.required_nonemptyText_eq_ok.mp parts.type).2, shaped⟩

/-- A node keeps the rules when it is filled in. -/
theorem Acceptable.filled {node : NodePayload} (acceptable : node.Acceptable) :
    node.filled.Acceptable :=
  ⟨acceptable.named, acceptable.typed, hasConditionShape_filled acceptable.shaped⟩

end NodePayload

/-- An edge that is read has an id. -/
theorem EdgePayload.named_of_shape {value : Json} {edge : EdgePayload}
    (read : shape value = .ok edge) : edge.id ≠ "" := by
  -- The id was read as a text that is not empty.
  obtain ⟨members, -, parts⟩ := shape_eq_ok.mp read
  exact (Shape.required_nonemptyText_eq_ok.mp parts.id).2

namespace Shape

/-- Every item of a list that is read was read from something. -/
theorem exists_of_listOf {α : Type} {shape : Shape Json α} {value : Json} {results : List α}
    (read : listOf shape value = .ok results) :
    ∀ result ∈ results, ∃ item, shape item = .ok result := by
  -- Items and results go side by side.
  obtain ⟨items, -, each⟩ := listOf_eq_ok.mp read
  intro result member
  obtain ⟨item, -, made⟩ := exists_of_forall₂_right each member
  exact ⟨item, made⟩

end Shape

namespace Payload

variable {payload : Payload}

/-- A document that is read keeps the rules of the importer. -/
theorem acceptable_of_shape {value : Json} (read : shape value = .ok payload) :
    payload.Acceptable := by
  obtain ⟨members, -, parts, passed⟩ := shape_eq_ok.mp read
  refine ⟨fun node member => ?_, fun edge member => ?_, passed⟩
  · obtain ⟨value, -, listed⟩ := Shape.required_eq_ok.mp parts.nodes
    obtain ⟨item, made⟩ := Shape.exists_of_listOf listed node member
    exact NodePayload.acceptable_of_shape made
  -- Edges may be missing, and then there are none.
  · obtain ⟨-, nothing⟩ | ⟨value, -, listed⟩ := Shape.withDefault_eq_ok.mp parts.edges
    · rw [nothing] at member
      cases member
    · obtain ⟨item, made⟩ := Shape.exists_of_listOf listed edge member
      exact EdgePayload.named_of_shape made

/-- The ends of edges have the same groups when nodes are filled in. -/
theorem endGroup_filled (payload : Payload) (edge node port : String) :
    endGroup payload.filled.nodes edge node port = endGroup payload.nodes edge node port := by
  -- Filling in gives a node the ports that it had all along.
  have group (holder : NodePayload) : holder.filled.group? port = holder.group? port := by
    rw [NodePayload.group?, NodePayload.group?, NodePayload.allPorts_filled]
  have found : (payload.filled.nodes.find? fun candidate => candidate.id == node) =
      (payload.nodes.find? fun candidate => candidate.id == node).map NodePayload.filled := by
    rw [Payload.filled, List.find?_map]
    rfl
  rw [endGroup, endGroup, found]
  cases payload.nodes.find? fun candidate => candidate.id == node with
  | none => rfl
  | some holder =>
    simp only [Option.map_some, group]

/-- A document passes the check of its references when it is filled in. -/
theorem checkReferences_filled (passed : payload.checkReferences = .ok ()) :
    payload.filled.checkReferences = .ok () := by
  obtain ⟨nodes, edges, ends, admits⟩ := checkReferences_iff_admits.mp passed
  -- Ids stay as they are, and ports are found as before.
  have ids : payload.filled.nodes.map NodePayload.id = payload.nodes.map NodePayload.id := by
    rw [Payload.filled, List.map_map]
    rfl
  refine checkReferences_iff_admits.mpr ⟨ids ▸ nodes, edges, ends, fun edge member => ?_⟩
  obtain ⟨leaves, enters⟩ := admits edge member
  constructor
  · rw [endGroup_filled]
    exact leaves
  · rw [endGroup_filled]
    exact enters

/-- A document keeps the rules of the importer when it is filled in. -/
theorem Acceptable.filled (acceptable : payload.Acceptable) : payload.filled.Acceptable where
  nodes := by
    intro node member
    -- Every node is one that has been filled in.
    obtain ⟨source, listed, rfl⟩ := List.mem_map.mp member
    exact (acceptable.nodes source listed).filled
  edges := acceptable.edges
  rules := checkReferences_filled acceptable.rules

/-- A document that is filled in has nothing to be filled in. -/
theorem filled_filled (payload : Payload) : payload.filled.filled = payload.filled := by
  -- A node that is filled in lacks nothing, so filling it in again changes nothing.
  have nodes : (payload.nodes.map NodePayload.filled).map NodePayload.filled =
      payload.nodes.map NodePayload.filled := by
    rw [List.map_map]
    exact List.map_congr_left fun node _ => node.filled_filled
  simp only [Payload.filled, nodes, doublesElse_doublesElse]

end Payload

namespace Shape

/-- A text is read as one that may be absent. -/
theorem optional_text_str (content : String) :
    optional text (Json.str content) = .ok (some content) := rfl

/-- A size that was filled in is read as the double that it is. -/
theorem optional_double_size {fallback : Json} {whole : Float}
    (read : optional double fallback = .ok (some whole)) (size : Option Float) :
    optional double ((size.map Json.float).getD fallback) = .ok (some (size.getD whole)) := by
  -- A size that is missing is written as the fallback, and that is read as its double.
  cases size with
  | none => exact read
  | some x => rfl

/-- Members that were filled in are read as the doubles that they are. -/
theorem objectOf_membersElse {fallback : Json.Members} {home : List (String × Float)}
    (read : objectOf double (Json.obj fallback) = .ok home) (doubles : List (String × Float)) :
    objectOf double (Json.obj (membersElse fallback (doubleMembers doubles))) =
      .ok (doublesElse home doubles) := by
  -- Without members the fallback is read, and otherwise the members are.
  cases doubles with
  | nil => exact read
  | cons first rest => exact objectOf_doubles (first :: rest)

end Shape

namespace NodePayload

/-- The place of a node that says nothing about it is read in doubles. -/
theorem homePosition_read :
    Shape.objectOf Shape.double (Json.obj Node.homePosition) = .ok homePosition := by
  rfl

/-- The width of a node that says nothing about it is read as a double. -/
theorem defaultWidth_read : Shape.optional Shape.double Node.defaultWidth = .ok (some 160.0) := by
  rfl

/-- The height of a node that says nothing about it is read as a double. -/
theorem defaultHeight_read : Shape.optional Shape.double Node.defaultHeight = .ok (some 70.0) := by
  rfl

end NodePayload

/-- What a node comes to is read as the node with everything filled in. -/
theorem NodePayload.Acceptable.shape_toNode {node : NodePayload} (acceptable : node.Acceptable) :
    shape node.toNode.toJson = .ok node.filled := by
  refine shape_eq_ok.mpr ⟨_, rfl, ?_, hasConditionShape_filled acceptable.shaped⟩
  -- Every part is found under its own name and read by itself.
  have ports : Shape.listOf PortPayload.shape
      (.arr ((node.allPorts.map PortPayload.toPort).map Port.toJson)) = .ok node.allPorts := by
    rw [List.map_map]
    exact Shape.listOf_map fun port _ => PortPayload.shape_toJson port
  have position := Shape.objectOf_membersElse homePosition_read node.position
  have width := Shape.optional_double_size defaultWidth_read node.width
  have height := Shape.optional_double_size defaultHeight_read node.height
  -- Of the parts only id and type are required, and both are there.
  constructor
  · exact Shape.required_nonemptyText_eq_ok.mpr ⟨rfl, acceptable.named⟩
  · exact Shape.required_nonemptyText_eq_ok.mpr ⟨rfl, acceptable.typed⟩
  · exact Checked.within_eq_ok.mpr (Shape.optional_text_str _)
  · exact Checked.within_eq_ok.mpr (Shape.optional_text_str _)
  · exact Checked.within_eq_ok.mpr position
  · exact Checked.within_eq_ok.mpr width
  · exact Checked.within_eq_ok.mpr height
  · exact Checked.within_eq_ok.mpr ports
  · exact Checked.within_eq_ok.mpr (Shape.object_obj _)
  · exact Checked.within_eq_ok.mpr (Shape.object_obj _)

/-- The view of a document that says nothing about it is read in doubles. -/
theorem Payload.homeViewport_read :
    Shape.objectOf Shape.double (Json.obj Document.homeViewport) = .ok homeViewport := by
  rfl

/-- What a document comes to is read as the document with everything filled in. -/
theorem Payload.Acceptable.shape_toDocument {payload : Payload} (acceptable : payload.Acceptable) :
    shape payload.toDocument.toJson = .ok payload.filled := by
  refine shape_eq_ok.mpr ⟨_, rfl, ?_, acceptable.filled.rules⟩
  have nodes : Shape.listOf NodePayload.shape (.arr (payload.toDocument.nodes.map Node.toJson)) =
      .ok (payload.nodes.map NodePayload.filled) := by
    refine Shape.listOf_eq_ok.mpr ⟨_, rfl, ?_⟩
    rw [toDocument, List.map_map, List.forall₂_map_left_iff, List.forall₂_map_right_iff,
      List.forall₂_same]
    exact fun node member => (acceptable.nodes node member).shape_toNode
  have edges : Shape.listOf EdgePayload.shape (.arr (payload.toDocument.edges.map Edge.toJson)) =
      .ok payload.edges := by
    -- An edge is written like the edge that it comes to.
    rw [toDocument, List.map_map]
    exact Shape.listOf_map fun edge member => EdgePayload.shape_toJson (acceptable.edges edge member)
  constructor
  · exact Checked.within_eq_ok.mpr nodes
  · exact Checked.within_eq_ok.mpr edges
  · exact Checked.within_eq_ok.mpr
      (Shape.objectOf_membersElse homeViewport_read payload.viewport)

/-- Two values are the same one, or numbers of the same value. -/
def Json.SameNumber (one other : Json) : Prop :=
  one = other ∨ ∃ number same, one = .num number ∧ other = .num same ∧
    number.sameValue same = true

/-- Two nodes are the same one, up to the kinds of the numbers that tell where it stands and how
large it is. -/
structure Node.Agrees (node other : Node) : Prop where
  bare : node.bare = other.bare
  position : node.position = other.position ∨ SameNumbers node.position other.position
  width : node.width.SameNumber other.width
  height : node.height.SameNumber other.height

/-- Two documents have the same nodes and edges in the same order and show the same view, up to the
kinds of the numbers that places, sizes and views are told in. -/
structure Document.Agrees (document other : Document) : Prop where
  nodes : List.Forall₂ Node.Agrees document.nodes other.nodes
  edges : document.edges = other.edges
  viewport : document.viewport = other.viewport ∨ SameNumbers document.viewport other.viewport

/-- Documents that agree come to the same logic. -/
theorem Document.Agrees.compile_eq {document other : Document} (agrees : document.Agrees other) :
    document.compile = other.compile :=
  compile_eq_of_bare (agrees.nodes.imp fun _ _ same => same.bare) agrees.edges

/-- Members that were filled in are read as doubles of the same values. -/
theorem membersElse_agrees {fallback : Json.Members} {home : List (String × Float)}
    (filled : home ≠ []) (same : SameNumbers (doubleMembers home) fallback)
    (doubles : List (String × Float)) :
    let members := membersElse fallback (doubleMembers doubles)
    let again := membersElse fallback (doubleMembers (doublesElse home doubles))
    again = members ∨ SameNumbers again members := by
  -- Without doubles the fallback was taken, which comes back with the same numbers.
  cases doubles with
  | nil =>
    right
    show SameNumbers (membersElse fallback (doubleMembers home)) fallback
    rw [membersElse_doubleMembers filled]
    exact same
  | cons first rest => exact .inl rfl

/-- A size that was filled in is read as a double of the same value. -/
theorem size_agrees {fallback : Json} {whole : Float}
    (same : (Json.float whole).SameNumber fallback) (size : Option Float) :
    (((some (size.getD whole)).map Json.float).getD fallback).SameNumber
      ((size.map Json.float).getD fallback) := by
  -- Only a size that is missing was written as a whole number.
  cases size with
  | none => exact same
  | some x => exact .inl rfl

/-- The place of a node that says nothing about it is the same in doubles. -/
theorem homePosition_sameNumbers :
    SameNumbers (doubleMembers NodePayload.homePosition) Node.homePosition :=
  -- Each of the two whole numbers is compared with its double.
  .cons ⟨rfl, _, _, rfl, rfl, by decide +kernel⟩ <|
    .cons ⟨rfl, _, _, rfl, rfl, by decide +kernel⟩ .nil

/-- A node that is imported again is the same one. -/
theorem NodePayload.filled_agrees (node : NodePayload) :
    node.filled.toNode.Agrees node.toNode where
  -- Numbers that were filled in come back as doubles; all else is equal.
  bare := by
    simp only [Node.bare, toNode, allPorts_filled]
    simp only [filled, Option.getD_some, Json.finiteMembers_finiteMembers]
  position := membersElse_agrees (by decide) homePosition_sameNumbers node.position
  width := size_agrees (.inr ⟨_, _, rfl, rfl, by decide +kernel⟩) node.width
  height := size_agrees (.inr ⟨_, _, rfl, rfl, by decide +kernel⟩) node.height

/-- A document that is imported again is the same one. -/
theorem Payload.filled_agrees (payload : Payload) :
    payload.filled.toDocument.Agrees payload.toDocument where
  -- Nodes agree one by one, and edges are not touched by filling in.
  nodes := by
    rw [toDocument, toDocument, filled, List.map_map, List.forall₂_map_left_iff,
      List.forall₂_map_right_iff, List.forall₂_same]
    exact fun node _ => node.filled_agrees
  edges := rfl
  viewport := membersElse_agrees (by decide) homeViewport_sameNumbers payload.viewport

/-- A node of a document is what a node of a payload says: it has its id and its type, and the ports
that are given or, where none are, those of its type. -/
structure NodePayload.Restores (payload : NodePayload) (node : Node) : Prop where
  id : node.id = .str payload.id
  type : node.type = .str payload.type
  ports : node.ports =
    if payload.ports = [] then defaultPorts node.type else payload.ports.map PortPayload.toPort

/-- A node of a payload is restored. -/
theorem NodePayload.restores_toNode (node : NodePayload) : node.Restores node.toNode where
  id := rfl
  type := rfl
  ports := by
    rw [toNode, allPorts]
    cases node.ports with
    | nil =>
      -- The ports of a type are the same on both sides.
      rw [List.isEmpty_nil, if_pos rfl, if_pos rfl, List.map_map]
      rfl
    | cons port rest => rfl

namespace ImportSource

variable {source : ImportSource} {payload : Payload}

/-- A document that came of an import is accepted when it is written, with everything filled in. -/
theorem document_toJson (acceptable : payload.Acceptable) (shallow : payload.isShallow = true) :
    (value payload.toDocument.toJson).payload = .ok payload.filled ∧
      (value payload.toDocument.toJson).document = .ok payload.filled.toDocument := by
  -- The saved form is read as the filled payload, which is as shallow as the first.
  have read : (value payload.toDocument.toJson).payload = .ok payload.filled :=
    mapError_eq_ok.mpr acceptable.shape_toDocument
  exact ⟨read, document_of_shallow read (payload.isShallow_filled.trans shallow)⟩

/-- Two nodes that leave out what can be left out, each in another way, and an edge between them. A
number of the first one is not finite. -/
def sparse : ImportSource := .value (.obj
  [("nodes", .arr
    [.obj [("id", .str "a"), ("type", .str "step"), ("label", .null), ("position", .obj []),
      ("ports", .arr []), ("width", .null), ("config", .obj [("limit", .float (1.0 / 0.0))])],
    .obj [("id", .str "b"), ("type", .str "if"), ("position", .obj [("x", .int 3)]),
      ("height", .str "12"), ("config", .obj [("conditionData", .null)])]]),
  ("edges", .arr [.obj [("id", .str "e"), ("source", .str "a"), ("source_port", .str "out"),
    ("target", .str "b"), ("targetPort", .str "in")]])])

/-- A step with settings three hundred lists deep. -/
def deepRows : ImportSource := .value (.obj
  [("nodes", .arr [.obj [("id", .str "a"), ("type", .str "step"),
    ("config", .obj [("rows", Json.nested 300)])]])])

end ImportSource

end Flowchart
