import Flowchart.Document.Edit

/-! The part of the canvas in view. -/

namespace Flowchart

namespace Document

/-- The coordinate of a node along an axis. -/
def coordinate (axis : String) (node : Node) : Except DocumentFault Number :=
  match node.position.get? axis with
  | none => .error (.missing axis)
  | some value =>
    match value.number? with
    | some number => .ok number
    | none => .error .wrongKind

/-- The least number of a list, the first one of equals. -/
def least : Number → List Number → Number
  | least, [] => least
  | soFar, next :: rest => least (if next.lt soFar then next else soFar) rest

/-- The least coordinate of the nodes along an axis; without nodes there is none. -/
def leastCoordinate (document : Document) (axis : String) :
    Except DocumentFault (Option Number) := do
  match ← document.nodes.mapM (coordinate axis) with
  | [] => return none
  | first :: rest => return some (least first rest)

/-- The view that puts a least coordinate at a distance from the edge. -/
def offset (padding : Json) (least : Number) : Except DocumentFault Json :=
  match padding.number? with
  | none => .error .wrongKind
  | some padding =>
    match padding.sub least with
    | .ok number => .ok (.num number)
    | .error _ => .error .tooLarge

/-- The view that shows every node, without zooming in. -/
def fittingView (document : Document) (padding : Json) : Except DocumentFault Json.Members := do
  -- Both axes are looked at before either is used, so that a fault in one ends it.
  match ← document.leastCoordinate "x", ← document.leastCoordinate "y" with
  | some x, some y =>
    return [("x", ← offset padding x), ("y", ← offset padding y), ("zoom", .int 1)]
  | _, _ => return homeViewport

/-- Moves the view so that every node shows. -/
def fit (document : Document) (padding : Json) : Except DocumentFault Document := do
  return { document with viewport := ← document.fittingView padding }

end Document

end Flowchart
