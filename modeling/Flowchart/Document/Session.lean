import Flowchart.Document.Edit

/-! Documents under a run of operations, with the settings and the supply they draw on. -/

namespace Flowchart

/-- A document being edited. -/
structure Workspace where
  document : Document
  settings : Settings
  supply : Supply

/-- What can be asked of a document under edit. Null stands for what is not given. -/
inductive Operation where
  /-- Adds a node whose middle is at a position, or at a random place without one. -/
  | addNode (type label position : Json)
  | updateNode (node patch label : Json)
  | setCondition (node condition text : Json)
  | setType (node type : Json)
  | removeNode (node : Json)
  | removeEdge (edge : Json)
  | connect (source sourcePort target targetPort : Json)
  | clear
  | replace (document : Document)

/-- What an operation answers. -/
inductive Outcome where
  | done
  /-- The id of a node that was added. -/
  | added (id : String)
  /-- A node as it is after the change. -/
  | changed (node : Node)
  /-- The edge of a connection that was made. -/
  | connected (edge : Edge)
  /-- The rules forbid the connection. -/
  | refused

namespace Workspace

/-- An empty document. -/
def start (settings : Settings) (supply : Supply) : Workspace := ⟨.empty, settings, supply⟩

/-- Adds a node. -/
def addNode (space : Workspace) (type label position : Json) :
    Except DocumentFault (Workspace × String) := do
  let ((x, y), supply) ← match position with
    | .null => .ok (randomPoint space.settings space.supply)
    | position => (dropPoint space.settings position).map fun point => (point, space.supply)
  let (id, supply) := supply.drawId
  let node := Node.fresh space.settings (.str id) type label x y
  return ({ space with document := space.document.addNode node, supply }, id)

/-- Makes a connection if the rules allow it; only then an id is drawn. -/
def connect (space : Workspace) (source sourcePort target targetPort : Json) :
    Workspace × Option Edge :=
  let (id, supply) := space.supply.drawId
  match space.document.connect space.settings.allowSelfLoops (.str id) source sourcePort target
      targetPort with
  | some (document, edge) => ({ space with document, supply }, some edge)
  | none => (space, none)

/-- Carries out one operation. -/
def perform (space : Workspace) : Operation → Except DocumentFault (Workspace × Outcome)
  | .addNode type label position => do
    let (space, id) ← space.addNode type label position
    return (space, .added id)
  | .updateNode node patch label => do
    let (document, node) ← space.document.updateNode node patch label
    return ({ space with document }, .changed node)
  | .setCondition node condition text => do
    let (document, node) ← space.document.setCondition node condition text
    return ({ space with document }, .changed node)
  | .setType node type => do
    let document ← space.document.setType node type
    return ({ space with document }, .done)
  | .removeNode node => .ok ({ space with document := space.document.removeNode node }, .done)
  | .removeEdge edge => .ok ({ space with document := space.document.removeEdge edge }, .done)
  | .connect source sourcePort target targetPort =>
    match space.connect source sourcePort target targetPort with
    | (space, some edge) => .ok (space, .connected edge)
    | (space, none) => .ok (space, .refused)
  | .clear => .ok ({ space with document := space.document.clear }, .done)
  | .replace document => .ok ({ space with document }, .done)

/-- The state after an operation; one that fails changes nothing. -/
def after (space : Workspace) (operation : Operation) : Workspace :=
  match space.perform operation with
  | .ok (next, _) => next
  | .error _ => space

/-- The state after a run of operations, failing ones included. -/
def run (space : Workspace) (operations : List Operation) : Workspace :=
  operations.foldl after space

end Workspace

end Flowchart
