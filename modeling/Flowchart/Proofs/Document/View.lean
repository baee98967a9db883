import Flowchart.Document.View
import Flowchart.Proofs.Payload.Imported

/-! When the view can be moved to the nodes of a document: every node has to have a number on each
axis, which those of an imported document have unless their position leaves out an axis. -/

namespace Flowchart

namespace Document

/-- A node has a coordinate on an axis if its position names a number for the axis. -/
theorem coordinate_eq_ok {axis : String} {node : Node} {number : Number} :
    coordinate axis node = .ok number ↔
      ∃ value, node.position.get? axis = some value ∧ value.number? = some number := by
  unfold coordinate
  -- The axis may be missing, or hold what is no number.
  split
  · rename_i nothing
    simp [nothing]
  · rename_i value found
    cases read : value.number? <;> simp [found, read]

/-- The least coordinate is known if every node has a coordinate. -/
theorem exists_leastCoordinate {document : Document} {axis : String} :
    (∃ found, document.leastCoordinate axis = .ok found) ↔
      ∀ node ∈ document.nodes, ∃ number, coordinate axis node = .ok number := by
  -- Nothing can fail once all coordinates are there: the least of none is left out.
  rw [← exists_mapM_eq_ok]
  constructor
  · rintro ⟨found, read⟩
    obtain ⟨numbers, all, -⟩ := bind_eq_ok.mp read
    exact ⟨numbers, all⟩
  · rintro ⟨numbers, all⟩
    cases numbers with
    | nil => exact ⟨none, bind_eq_ok.mpr ⟨_, all, rfl⟩⟩
    | cons first rest => exact ⟨some (least first rest), bind_eq_ok.mpr ⟨_, all, rfl⟩⟩

/-- A whole distance that a double can hold is kept from every number. -/
theorem exists_offset {padding : Int} {x : Float} (held : Number.floatOfInt? padding = some x)
    (number : Number) : ∃ value, offset (.int padding) number = .ok value := by
  -- Whole numbers are subtracted as they are; for a double the padding has to be a double as well.
  cases number with
  | int least => exact ⟨_, rfl⟩
  | float least =>
    have converted : (Number.int padding).toFloat = .ok x := by simp [Number.toFloat, held]
    have distance : (Number.int padding).sub (.float least) = .ok (.float (x - least)) := by
      rw [Number.sub, converted]
      · rfl
      · nofun
    exact ⟨.num (.float (x - least)), by simp only [offset, Json.number?, distance]⟩

/-- The view that shows every node is known exactly if every node has a number on each axis. -/
theorem exists_fittingView {document : Document} {padding : Int} {x : Float}
    (held : Number.floatOfInt? padding = some x) :
    (∃ viewport, document.fittingView (.int padding) = .ok viewport) ↔
      ∀ node ∈ document.nodes, ∀ axis ∈ ["x", "y"],
        ∃ number, coordinate axis node = .ok number := by
  -- The least coordinates are looked for axis by axis, and each search meets every node.
  have axes : (∀ node ∈ document.nodes, ∀ axis ∈ ["x", "y"],
      ∃ number, coordinate axis node = .ok number) ↔
      (∃ found, document.leastCoordinate "x" = .ok found) ∧
        ∃ found, document.leastCoordinate "y" = .ok found := by
    simp only [exists_leastCoordinate, List.forall_mem_cons, List.not_mem_nil, false_imp_iff,
      implies_true, and_true, forall_and]
  rw [axes]
  constructor
  · rintro ⟨viewport, shown⟩
    obtain ⟨across, left, rest⟩ := bind_eq_ok.mp shown
    obtain ⟨down, top, -⟩ := bind_eq_ok.mp rest
    exact ⟨⟨across, left⟩, down, top⟩
  · rintro ⟨⟨across, left⟩, down, top⟩
    -- Where one of the axes has no least coordinate there are no nodes.
    have shown (viewport : Json.Members) (fitted : _ = Except.ok viewport) :
        ∃ viewport, document.fittingView (.int padding) = .ok viewport :=
      ⟨viewport, bind_eq_ok.mpr ⟨across, left, bind_eq_ok.mpr ⟨down, top, fitted⟩⟩⟩
    cases across with
    | none => exact shown homeViewport rfl
    | some across =>
      cases down with
      | none => exact shown homeViewport rfl
      | some down =>
        obtain ⟨right, aside⟩ := exists_offset held across
        obtain ⟨below, under⟩ := exists_offset held down
        exact shown [("x", right), ("y", below), ("zoom", .int 1)]
          (bind_eq_ok.mpr ⟨right, aside, bind_eq_ok.mpr ⟨below, under, rfl⟩⟩)

end Document

/-- The position of a node that comes in is left out or names both axes. -/
def NodePayload.IsPlaced (node : NodePayload) : Prop :=
  node.position = [] ∨ ∀ axis ∈ ["x", "y"], axis ∈ node.position.map Prod.fst

/-- Named doubles have a number under each of their names, and nothing else. -/
theorem doubleMembers_get? (doubles : List (String × Float)) (axis : String) :
    (doubleMembers doubles).get? axis =
      (doubles.find? fun double => double.1 == axis).map fun double => .float double.2 := by
  simp [doubleMembers, Json.Members.get?, List.find?_map, Function.comp_def]

namespace NodePayload

/-- A node that came in has a number on each axis exactly if its position does not leave one out. -/
theorem isPlaced_iff {node : NodePayload} :
    node.IsPlaced ↔
      ∀ axis ∈ ["x", "y"], ∃ number, Document.coordinate axis node.toNode = .ok number := by
  simp only [Document.coordinate_eq_ok]
  by_cases absent : node.position = []
  · -- A node without a position has one of its own.
    have home : node.toNode.position = Node.homePosition := by
      simp [toNode, absent, doubleMembers, membersElse]
    rw [home]
    refine ⟨fun _ axis listed => ?_, fun _ => .inl absent⟩
    simp only [List.mem_cons, List.not_mem_nil, or_false] at listed
    obtain rfl | rfl := listed <;> exact ⟨.int 0, .int 0, rfl, rfl⟩
  · have given : node.toNode.position = doubleMembers node.position :=
      membersElse_doubleMembers absent
    -- Of two members with one name the first is found, and either of them names the axis.
    have named (axis : String) : axis ∈ node.position.map Prod.fst ↔
        ∃ number value, (doubleMembers node.position).get? axis = some value ∧
          value.number? = some number := by
      rw [doubleMembers_get?, List.mem_map]
      constructor
      · rintro ⟨double, listed, rfl⟩
        -- Conversely the search for the axis ends at the latest at this member.
        have present : (node.position.find? fun other => other.1 == double.1).isSome :=
          List.find?_isSome.mpr ⟨double, listed, beq_self_eq_true double.1⟩
        obtain ⟨first, found⟩ := Option.isSome_iff_exists.mp present
        exact ⟨.float first.2, .float first.2, by rw [found]; rfl, rfl⟩
      · rintro ⟨number, value, found, -⟩
        obtain ⟨double, first, -⟩ := Option.map_eq_some_iff.mp found
        have name := List.find?_some first
        exact ⟨double, List.mem_of_find?_eq_some first, eq_of_beq name⟩
    simp only [IsPlaced, absent, false_or, given, named]

end NodePayload

/-- The view can be moved to the nodes of an imported document exactly if each of them is placed. -/
theorem Payload.exists_fittingView {payload : Payload} {padding : Int} {x : Float}
    (held : Number.floatOfInt? padding = some x) :
    (∃ viewport, payload.toDocument.fittingView (.int padding) = .ok viewport) ↔
      ∀ node ∈ payload.nodes, node.IsPlaced := by
  -- A node of the payload is placed as its restored node is.
  simp only [Document.exists_fittingView held, NodePayload.isPlaced_iff, toDocument,
    List.forall_mem_map]

end Flowchart
