import Flowchart.Export
import Flowchart.Proofs.Json.ReadBack
import Flowchart.Proofs.Logic.Closed
import Flowchart.Proofs.Payload.Imported

/-! What the writers of an export get to see. Logic holds no number but those in the settings of its
steps, and these come from the document. So an export can be written if the document can, and is read
back if the document is. A document that was read from a text can always be written. -/

namespace Flowchart

open Json (isWritable areWritable haveWritable)

/-- The settings of a step are all of it that may stop a writer. -/
@[simp] theorem LogicStep.isWritable_toJson (step : LogicStep) :
    step.toJson.isWritable = haveWritable step.config := by
  obtain ⟨id, type, label, config, next, nextTrue, nextFalse⟩ := step
  -- The parts that may be left out are texts, whether they are there or not.
  cases label <;> cases next <;> cases nextTrue <;> cases nextFalse <;>
    simp [toJson, textMember, isWritable, haveWritable]

/-- Logic can be written if the settings of its steps can. -/
theorem Logic.isWritable_toJson_iff {logic : Logic} :
    logic.toJson.isWritable = true ↔ ∀ step ∈ logic.steps, haveWritable step.config = true := by
  simp [toJson, isWritable, haveWritable, Json.areWritable_iff]

/-- Nothing is lost of a step if nothing is lost of its settings. -/
theorem LogicStep.isTold_toJson {step : LogicStep} (told : (Json.obj step.config).IsTold) :
    step.toJson.IsTold := by
  obtain ⟨id, type, label, config, next, nextTrue, nextFalse⟩ := step
  -- No two parts of a step are written under one name, and the others are texts.
  cases label <;> cases next <;> cases nextTrue <;> cases nextFalse <;>
    simpa [toJson, textMember, Json.IsTold, Json.HaveTold] using told

namespace Document

variable {document : Document} {logic : Logic}

/-- The settings of a step are those of its node, or a condition that is stored in these, or there are
none. -/
theorem Renders.config_origin {node : Node} {step : LogicStep}
    (renders : document.Renders node step) :
    node.config = .obj step.config ∨ step.config = [] ∨
      ∃ settings : Json.Members, node.config = .obj settings ∧
        settings.get? conditionKey = some (.obj step.config) := by
  have held := renders.settings
  rw [Node.stepSettings] at held
  split at held
  · obtain ⟨condition, found, same⟩ := map_eq_ok.mp held
    obtain ⟨settings, read, stored⟩ := map_eq_ok.mp found
    rw [← same, ← stored, Json.Members.getOrNull]
    -- What is stored is a condition only if it is an object.
    cases kept : settings.get? conditionKey with
    | none => exact .inr (.inl rfl)
    | some value =>
      cases value with
      | obj condition => exact .inr (.inr ⟨settings, Node.settings_eq_ok.mp read, kept⟩)
      | _ => exact .inr (.inl rfl)
  · exact .inl (Node.settings_eq_ok.mp held)

/-- A step has settings that can be written if its node has. -/
theorem Renders.haveWritable_config {node : Node} {step : LogicStep}
    (renders : document.Renders node step) (writable : node.config.isWritable = true) :
    haveWritable step.config = true := by
  -- A step has the settings of its node, or none, or the one that is its condition.
  obtain same | none | ⟨settings, same, kept⟩ := renders.config_origin
  · rwa [same, isWritable] at writable
  · rw [none]
    rfl
  · rw [same, isWritable] at writable
    exact Json.isWritable_of_get? writable kept

/-- Nothing is lost of the settings of a step if nothing is lost of those of its node. -/
theorem Renders.isTold_config {node : Node} {step : LogicStep}
    (renders : document.Renders node step) (told : node.config.IsTold) :
    (Json.obj step.config).IsTold := by
  -- A step has the settings of its node, or none, or the one that is its condition.
  obtain same | none | ⟨settings, same, kept⟩ := renders.config_origin
  · rwa [same] at told
  · rw [none, Json.IsTold]
    exact ⟨List.nodup_nil, trivial⟩
  · rw [same, Json.IsTold] at told
    obtain ⟨member, first, stored⟩ := Option.map_eq_some_iff.mp kept
    rw [← stored]
    exact Json.haveTold_iff.mp told.2 member (List.mem_of_find?_eq_some first)

/-- The settings of the nodes can be written if the document can. -/
theorem isWritable_config (writable : document.toJson.isWritable = true) :
    ∀ node ∈ document.nodes, node.config.isWritable = true := by
  simp only [toJson, isWritable, haveWritable, Json.areWritable_iff, List.forall_mem_map,
    Bool.and_eq_true] at writable
  intro node member
  -- The settings of a node are one member of what is saved of it.
  have whole := writable.1 node member
  simp only [Node.toJson, isWritable, haveWritable, Bool.and_eq_true] at whole
  exact whole.2.2.2.2.2.2.2.2.1

/-- The logic of a document whose settings can be written can be written. -/
theorem isWritable_compile (compiled : document.compile = .ok logic)
    (writable : ∀ node ∈ document.nodes, node.config.isWritable = true) :
    logic.toJson.isWritable = true := by
  -- Each step comes from a node of the document.
  refine Logic.isWritable_toJson_iff.mpr fun step listed => ?_
  obtain ⟨node, member, renders⟩ := exists_of_forall₂_right (compile_eq_ok.mp compiled).1 listed
  exact renders.haveWritable_config (writable node member)

/-- Nothing is lost of the logic of a document if nothing is lost of the document. -/
theorem isTold_compile (compiled : document.compile = .ok logic) (told : document.toJson.IsTold) :
    logic.toJson.IsTold := by
  have steps : Json.AreTold (logic.steps.map LogicStep.toJson) := by
    rw [Json.areTold_iff, List.forall_mem_map]
    intro step listed
    obtain ⟨node, member, renders⟩ := exists_of_forall₂_right (compile_eq_ok.mp compiled).1 listed
    -- The settings of the node are a part of the document.
    have config : node.config.IsTold := by
      simp only [toJson, Json.IsTold, Json.HaveTold, Json.areTold_iff, List.forall_mem_map] at told
      have whole := told.2.1 node member
      simp only [Node.toJson, Json.IsTold, Json.HaveTold] at whole
      exact whole.2.2.2.2.2.2.2.2.2.1
    exact LogicStep.isTold_toJson (renders.isTold_config config)
  have start : (Json.ofText? logic.start).IsTold := by
    cases logic.start <;> exact trivial
  rw [Logic.toJson, Json.IsTold]
  exact ⟨by simp, start, steps, trivial⟩

end Document

section Sizes

open Json (isWritable_int)

/-- Named doubles can be written, and so can what stands in for none. -/
theorem haveWritable_doubles {fallback : Json.Members} (doubles : List (String × Float))
    (writable : haveWritable fallback = true) :
    haveWritable (membersElse fallback (doubleMembers doubles)) = true := by
  -- Doubles have a text however long it takes, so only the fallback could hold too many digits.
  have each : haveWritable (doubleMembers doubles) = true := by
    refine Json.haveWritable_iff.mpr fun member listed => ?_
    obtain ⟨double, -, rfl⟩ := List.mem_map.mp listed
    rfl
  rw [membersElse]
  split
  · exact writable
  · exact each

/-- Doubles and texts are no matter, so a node can be written if its settings and its style can. -/
theorem NodePayload.isWritable_toNode {node : NodePayload}
    (config : haveWritable node.config = true) (style : haveWritable node.style = true) :
    node.toNode.toJson.isWritable = true := by
  -- Place and size are doubles or small numbers, and style and settings are given.
  have size (fallback : Json) (writable : fallback.isWritable = true) (given : Option Float) :
      ((given.map Json.float).getD fallback).isWritable = true := by
    cases given with
    | none => exact writable
    | some x => rfl
  have position : haveWritable (membersElse Node.homePosition (doubleMembers node.position)) =
      true := haveWritable_doubles _ (by simp [Node.homePosition, haveWritable, isWritable_int])
  have ports : areWritable ((node.allPorts.map PortPayload.toPort).map Port.toJson) = true := by
    refine Json.areWritable_iff.mpr ?_
    simp [PortPayload.toPort, Port.toJson, isWritable, haveWritable]
  have width := size Node.defaultWidth (isWritable_int (by decide)) node.width
  have height := size Node.defaultHeight (isWritable_int (by decide)) node.height
  simp only [Node.toJson, toNode, isWritable, haveWritable, position, ports, config, style, width,
    height, Json.haveWritable_finiteMembers, Bool.and_self]

/-- A document that comes in can be written if the settings and the styles of its nodes can. -/
theorem Payload.isWritable_toDocument {payload : Payload}
    (nodes : ∀ node ∈ payload.nodes,
      haveWritable node.config = true ∧ haveWritable node.style = true) :
    payload.toDocument.toJson.isWritable = true := by
  have viewport : haveWritable (membersElse Document.homeViewport
      (doubleMembers payload.viewport)) = true :=
    haveWritable_doubles _ (by simp [Document.homeViewport, haveWritable, isWritable_int])
  -- Edges hold texts and the view holds doubles, which leaves the nodes.
  have each : areWritable ((payload.nodes.map NodePayload.toNode).map Node.toJson) = true := by
    simp only [Json.areWritable_iff, List.forall_mem_map]
    exact fun node member => NodePayload.isWritable_toNode (nodes node member).1 (nodes node member).2
  have edges : areWritable ((payload.edges.map EdgePayload.toEdge).map Edge.toJson) = true := by
    simp [Json.areWritable_iff, EdgePayload.toEdge, Edge.toJson, isWritable, haveWritable]
  simp only [Document.toJson, toDocument, isWritable, haveWritable, each, edges, viewport,
    Bool.and_self]

end Sizes

section Readers

variable {members : Json.Members} {value : Json}

/-- An object that may be left out can be written if what it is read from can. -/
theorem Shape.haveWritable_of_withDefault {name : String} {object : Json.Members}
    (writable : haveWritable members = true)
    (read : withDefault Shape.object [] (field members.get? name) = .ok object) :
    haveWritable object = true := by
  -- The member is missing, and then the object is empty, or it was found among the members.
  obtain ⟨-, rfl⟩ | ⟨value, found, same⟩ := withDefault_eq_ok.mp read
  · rfl
  · rw [object_eq_ok] at same
    subst same
    exact Json.isWritable_of_get? writable found

/-- What is read from a value that can be written has settings and styles that can. -/
theorem Payload.haveWritable_of_shape {payload : Payload} (writable : value.isWritable = true)
    (read : shape value = .ok payload) : ∀ node ∈ payload.nodes,
      haveWritable node.config = true ∧ haveWritable node.style = true := by
  obtain ⟨members, rfl, parts, -⟩ := shape_eq_ok.mp read
  obtain ⟨listed, found, items⟩ := Shape.required_eq_ok.mp parts.nodes
  obtain ⟨items, rfl, each⟩ := Shape.listOf_eq_ok.mp items
  have whole := Json.areWritable_iff.mp (Json.isWritable_of_get? writable found)
  -- Each node of the payload was read from an item of the list.
  intro node member
  obtain ⟨item, given, came⟩ := exists_of_forall₂_right each member
  obtain ⟨inner, rfl, within, -⟩ := NodePayload.shape_eq_ok.mp came
  exact ⟨Shape.haveWritable_of_withDefault (whole _ given) within.config,
    Shape.haveWritable_of_withDefault (whole _ given) within.style⟩

/-- The nodes are held by an object itself or by the object under one of its keys. -/
theorem ImportSource.graphMembers_eq_ok {outer : Json.Members}
    (found : graphMembers outer = .ok members) :
    members = outer ∨ outer.getOrNull "graph" = .obj members := by
  -- The graph is unwrapped if it is there and an object.
  unfold graphMembers at found
  dsimp only at found
  split at found <;> split at found <;> simp_all

/-- The members that hold the nodes can be written if the value can. -/
theorem ImportSource.haveWritable_graph (writable : value.isWritable = true)
    (found : graph value = .ok members) : haveWritable members = true := by
  cases value with
  | obj outer =>
    -- The graph is the value itself or the member of that name.
    obtain rfl | held := graphMembers_eq_ok found
    · exact writable
    · have inner := Json.isWritable_getOrNull "graph" writable
      rwa [held] at inner
  | _ => cases found

/-- What a source comes to can be written, unless it gives a value that cannot. -/
theorem ImportSource.isWritable_toJson {source : ImportSource} (came : source.toJson = .ok value)
    (parsed : ∀ given, source = .value given → given.isWritable = true) :
    value.isWritable = true := by
  -- The limit of the reader is the limit of the writers.
  unfold toJson at came
  split at came
  · exact Json.isWritable_of_read (mapError_eq_ok.mp came)
  · exact Json.isWritable_of_read (mapError_eq_ok.mp came)
  · cases came
    exact parsed _ rfl
  · split at came
    · exact Json.isWritable_of_readDecoded (mapError_eq_ok.mp came)
    · cases came

/-- A document that is imported can be written, unless it is given as a value that cannot. -/
theorem ImportSource.isWritable_document {source : ImportSource} {document : Document}
    (imported : source.document = .ok document)
    (parsed : ∀ given, source = .value given → given.isWritable = true) :
    document.toJson.isWritable = true := by
  obtain ⟨payload, read, -, rfl⟩ := document_eq_ok.mp imported
  obtain ⟨value, came, rest⟩ := bind_eq_ok.mp read
  obtain ⟨members, found, shaped⟩ := bind_eq_ok.mp rest
  -- The nodes are part of the value, and the document is made of what was read of them.
  have inner : (Json.obj members).isWritable = true :=
    haveWritable_graph (isWritable_toJson came parsed) found
  exact Payload.isWritable_toDocument
    (Payload.haveWritable_of_shape inner (mapError_eq_ok.mp shaped))

end Readers

end Flowchart
