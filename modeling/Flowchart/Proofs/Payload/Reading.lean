import Flowchart.Proofs.Outcome
import Flowchart.Proofs.Payload.Restored

/-! What a payload is read from: every part of a record by itself, under its own name, before the rules
about the whole are tried. A payload that keeps the rules reads back from what it is written as. -/

namespace Flowchart

namespace Checked

/-- A part that was read is handed to the record that waits for it. -/
@[simp] theorem part_ok {α β : Type} (value : α) (record : α → β) :
    part (.ok value) (.ok record) = .ok (record value) := rfl

/-- Where a value was read, the way to it does not matter. -/
@[simp] theorem within_ok {α : Type} (step : PathStep) (value : α) :
    within step (.ok value) = .ok value := rfl

end Checked

namespace Shape

/-- A text is read as it is. -/
@[simp] theorem text_str (content : String) : text (Json.str content) = .ok content := rfl

/-- A double is read as it is. -/
@[simp] theorem double_float (x : Float) : double (Json.float x) = .ok x := rfl

/-- A text or null is read as what it was written from. -/
@[simp] theorem optional_ofText? (content : Option String) :
    optional text (Json.ofText? content) = .ok content := by
  cases content <;> rfl

/-- A double or null is read as what it was written from. -/
@[simp] theorem optional_doubleOrNull (size : Option Float) :
    optional double (Payload.doubleOrNull size) = .ok size := by
  cases size <;> rfl

/-- A list of items that read back reads back. -/
theorem listOf_map {α : Type} {shape : Shape Json α} {write : α → Json} {items : List α}
    (each : ∀ item ∈ items, shape (write item) = .ok item) :
    listOf shape (.arr (items.map write)) = .ok items := by
  -- Each item is read back, so the items and what was read go side by side.
  refine listOf_eq_ok.mpr ⟨_, rfl, ?_⟩
  rw [List.forall₂_map_left_iff, List.forall₂_same]
  exact each

/-- Named doubles read back. -/
@[simp] theorem objectOf_doubles (doubles : List (String × Float)) :
    objectOf double (Payload.doublesToJson doubles) = .ok doubles := by
  -- Each key is a text and each value is a double.
  have outcomes : ((doubles.map fun double => (double.1, Json.float double.2)).map
      fun given => (MemberKey.ofText given.1, given.2)).map
        (fun given => member double given.1 given.2) = doubles.map .ok := by
    rw [List.map_map, List.map_map]
    rfl
  exact Checked.all_eq_ok.mpr outcomes

end Shape

/-- A port reads back. -/
theorem PortPayload.shape_toJson (port : PortPayload) : shape port.toJson = .ok port := by
  -- Each of the four groups is read by its name.
  obtain ⟨id, group⟩ := port
  cases group <;> rfl

/-- Every part of an edge is read from members of an object. -/
structure EdgePayload.ReadFrom (members : Json.Members) (edge : EdgePayload) : Prop where
  id : Shape.required Shape.nonemptyText (Shape.field members.get? "id") = .ok edge.id
  source : Shape.required Shape.text (Shape.field members.get? "source") = .ok edge.source
  sourcePort : Shape.required Shape.text
    (Shape.either members.get? "sourcePort" "source_port") = .ok edge.sourcePort
  target : Shape.required Shape.text (Shape.field members.get? "target") = .ok edge.target
  targetPort : Shape.required Shape.text
    (Shape.either members.get? "targetPort" "target_port") = .ok edge.targetPort

/-- An edge is read from an object if every part of it is. -/
theorem EdgePayload.shape_eq_ok {value : Json} {edge : EdgePayload} :
    shape value = .ok edge ↔ ∃ members : Json.Members, value = .obj members ∧ edge.ReadFrom members := by
  rw [shape, Shape.record_eq_ok]
  refine exists_congr fun members => and_congr_right fun _ => ?_
  obtain ⟨id, source, sourcePort, target, targetPort⟩ := edge
  -- The parts are read one after the other, and an edge is what all of them come to.
  constructor
  · intro built
    simp only [Checked.build, Checked.part_eq_ok, Except.ok.injEq, exists_and_left,
      exists_eq_left', exists_exists_and_eq_and, exists_exists_and_exists_and_eq_and,
      ↓existsAndEq, and_true, and_assoc, mk.injEq] at built
    obtain ⟨id, source, sourcePort, target, targetPort⟩ := built
    exact ⟨id, source, sourcePort, target, targetPort⟩
  · rintro ⟨id, source, sourcePort, target, targetPort⟩
    simp only [id, source, sourcePort, target, targetPort, Checked.build, Checked.part_ok]

/-- Every part of a node is read from members of an object. -/
structure NodePayload.ReadFrom (members : Json.Members) (node : NodePayload) : Prop where
  id : Shape.required Shape.nonemptyText (Shape.field members.get? "id") = .ok node.id
  type : Shape.required Shape.nonemptyText (Shape.field members.get? "type") = .ok node.type
  label : Shape.withDefault (Shape.optional Shape.text) (some "")
    (Shape.field members.get? "label") = .ok node.label
  text : Shape.withDefault (Shape.optional Shape.text) (some "")
    (Shape.field members.get? "text") = .ok node.text
  position : Shape.withDefault (Shape.objectOf Shape.double) homePosition
    (Shape.field members.get? "position") = .ok node.position
  width : Shape.withDefault (Shape.optional Shape.double) none
    (Shape.field members.get? "width") = .ok node.width
  height : Shape.withDefault (Shape.optional Shape.double) none
    (Shape.field members.get? "height") = .ok node.height
  ports : Shape.withDefault (Shape.listOf PortPayload.shape) []
    (Shape.field members.get? "ports") = .ok node.ports
  config : Shape.withDefault Shape.object [] (Shape.field members.get? "config") = .ok node.config
  style : Shape.withDefault Shape.object [] (Shape.field members.get? "style") = .ok node.style

/-- A node is read from an object if every part of it is and the condition of a branch has its
shape. -/
theorem NodePayload.shape_eq_ok {value : Json} {node : NodePayload} :
    shape value = .ok node ↔ ∃ members : Json.Members, value = .obj members ∧
      node.ReadFrom members ∧ node.hasConditionShape = true := by
  rw [shape, Shape.record_eq_ok]
  refine exists_congr fun members => and_congr_right fun _ => ?_
  rw [bind_eq_ok]
  constructor
  · rintro ⟨parts, built, checked⟩
    -- The condition is looked at after all parts are read.
    split at checked
    · rename_i shaped
      cases checked
      refine ⟨?_, shaped⟩
      obtain ⟨id, type, label, text, position, width, height, ports, config, style⟩ := node
      simp only [Checked.build, Checked.part_eq_ok, Except.ok.injEq, exists_and_left,
      exists_eq_left', exists_exists_and_eq_and, exists_exists_and_exists_and_eq_and,
      ↓existsAndEq, and_true, and_assoc, mk.injEq] at built
      obtain ⟨id, type, label, text, position, width, height, ports, config, style⟩ := built
      exact ⟨id, type, label, text, position, width, height, ports, config, style⟩
    · cases checked
  · rintro ⟨⟨id, type, label, text, position, width, height, ports, config, style⟩, shaped⟩
    -- Conversely the parts are built in their order, and the check passes on the node.
    refine ⟨node, ?_, if_pos shaped⟩
    simp only [id, type, label, text, position, width, height, ports, config, style, Checked.build,
      Checked.part_ok]

/-- Every part of a document is read from members of an object. -/
structure Payload.ReadFrom (members : Json.Members) (payload : Payload) : Prop where
  nodes : Shape.required (Shape.listOf NodePayload.shape)
    (Shape.field members.get? "nodes") = .ok payload.nodes
  edges : Shape.withDefault (Shape.listOf EdgePayload.shape) []
    (Shape.field members.get? "edges") = .ok payload.edges
  viewport : Shape.withDefault (Shape.objectOf Shape.double) homeViewport
    (Shape.field members.get? "viewport") = .ok payload.viewport

/-- A document is read from an object if every part of it is and it passes the check of its
references. -/
theorem Payload.shape_eq_ok {value : Json} {payload : Payload} :
    shape value = .ok payload ↔ ∃ members : Json.Members, value = .obj members ∧
      payload.ReadFrom members ∧ payload.checkReferences = .ok () := by
  rw [shape, Shape.record_eq_ok]
  refine exists_congr fun members => and_congr_right fun _ => ?_
  rw [bind_eq_ok]
  constructor
  · -- The check comes after all parts are read, and passes on what it was given.
    rintro ⟨parts, built, checked⟩
    split at checked
    · rename_i passed
      cases checked
      refine ⟨?_, passed⟩
      -- What was built is the payload, so its parts are those that were read.
      obtain ⟨nodes, edges, viewport⟩ := payload
      simp only [Checked.build, Checked.part_eq_ok, Except.ok.injEq, exists_and_left,
        exists_eq_left', exists_exists_and_eq_and, exists_exists_and_exists_and_eq_and,
        ↓existsAndEq, and_true, mk.injEq] at built
      obtain ⟨nodes, edges, viewport⟩ := built
      exact ⟨nodes, edges, viewport⟩
    · cases checked
  · rintro ⟨⟨nodes, edges, viewport⟩, passed⟩
    -- Conversely the parts are built in their order, and the check passes on the payload.
    refine ⟨payload, ?_, by rw [passed]; rfl⟩
    simp only [nodes, edges, viewport, Checked.build, Checked.part_ok]

/-- An edge with an id reads back. -/
theorem EdgePayload.shape_toJson {edge : EdgePayload} (named : edge.id ≠ "") :
    shape edge.toJson = .ok edge :=
  shape_eq_ok.mpr ⟨_, rfl, by simp [Shape.field, Json.Members.get?, named], rfl, rfl, rfl, rfl⟩

/-- A node that keeps the rules for single nodes, and of which nothing is lost in writing. -/
structure NodePayload.Legible (node : NodePayload) : Prop where
  named : node.id ≠ ""
  typed : node.type ≠ ""
  /-- The condition of a branch is an object. -/
  shaped : node.hasConditionShape = true
  /-- No number in the settings is written as null. -/
  config : Json.finiteMembers node.config = node.config
  style : Json.finiteMembers node.style = node.style

/-- A legible node reads back. -/
theorem NodePayload.Legible.shape_nodeToJson {node : NodePayload} (legible : node.Legible) :
    shape (Payload.nodeToJson node) = .ok node := by
  refine shape_eq_ok.mpr ⟨_, rfl, ?_, legible.shaped⟩
  -- Every part is found under its own name and reads back by itself.
  have ports : Shape.listOf PortPayload.shape (.arr (node.ports.map PortPayload.toJson)) =
      .ok node.ports := Shape.listOf_map fun port _ => PortPayload.shape_toJson port
  constructor <;>
    simp [Shape.withDefault, Shape.field, Json.Members.get?, legible.named, legible.typed, ports,
      legible.config, legible.style]

namespace Payload

/-- A payload reads back from its written nodes and edges and any view of the same doubles. -/
theorem shape_members {payload : Payload} (nodes : ∀ node ∈ payload.nodes, node.Legible)
    (edges : ∀ edge ∈ payload.edges, edge.id ≠ "") (rules : payload.checkReferences = .ok ())
    {viewport : Json} (view : Shape.objectOf Shape.double viewport = .ok payload.viewport) :
    shape (.obj [("nodes", .arr (payload.nodes.map nodeToJson)),
      ("edges", .arr (payload.edges.map EdgePayload.toJson)), ("viewport", viewport)]) =
        .ok payload := by
  -- Each list is read item by item.
  have readNodes := Shape.listOf_map fun node member => (nodes node member).shape_nodeToJson
  have readEdges := Shape.listOf_map fun edge member =>
    EdgePayload.shape_toJson (edges edge member)
  refine shape_eq_ok.mpr ⟨_, rfl, ⟨?_, ?_, ?_⟩, rules⟩
  · exact Checked.within_eq_ok.mpr readNodes
  · exact Checked.within_eq_ok.mpr readEdges
  · exact Checked.within_eq_ok.mpr view

/-- A payload that keeps the rules reads back. -/
theorem shape_toJson {payload : Payload} (nodes : ∀ node ∈ payload.nodes, node.Legible)
    (edges : ∀ edge ∈ payload.edges, edge.id ≠ "") (rules : payload.checkReferences = .ok ()) :
    shape payload.toJson = .ok payload :=
  shape_members nodes edges rules (Shape.objectOf_doubles payload.viewport)

end Payload

end Flowchart
