import Flowchart.Form
import Flowchart.Proofs.Document.Steps

/-! Changes made in place, one write after the other. A fault ends such a change, and what it has
written by then stays. The main statements say that this makes no difference: every change comes to
what it comes to when it is made at once, so that none of them writes anything before its last
chance to fail. -/

namespace Flowchart

namespace Document

variable {id : Json} {old changed : Node} {nodes front back : List Node}

/-- What comes before the first node with an id stays, and so does what comes after it. -/
theorem replaceFirst_append (apart : ∀ node ∈ front, node.id.equals id = false)
    (named : old.id.equals id = true) (changed : Node) :
    replaceFirst id changed (front ++ old :: back) = front ++ changed :: back := by
  -- The induction passes the nodes that have other ids.
  induction front with
  | nil => simp [replaceFirst, named]
  | cons first rest ih =>
    have passed : first.id.equals id = false := apart first List.mem_cons_self
    have later := ih fun node member => apart node (List.mem_cons_of_mem _ member)
    simp [replaceFirst, passed, later]

/-- The first node with an id comes after nodes that have other ids. -/
theorem split_of_find? (found : nodes.find? (fun node => node.id.equals id) = some old) :
    old.id.equals id = true ∧ ∃ front back, nodes = front ++ old :: back ∧
      ∀ node ∈ front, node.id.equals id = false := by
  -- The list splits at the first hit, and nothing before it has the id.
  obtain ⟨named, front, back, split, apart⟩ := List.find?_eq_some_iff_append.mp found
  exact ⟨named, front, back, split, by simpa using apart⟩

/-- A node that is put in its own place changes nothing. -/
theorem replaceFirst_self (found : nodes.find? (fun node => node.id.equals id) = some old) :
    replaceFirst id old nodes = nodes := by
  -- The node that is put back stands where it was taken from.
  obtain ⟨named, front, back, rfl, apart⟩ := split_of_find? found
  exact replaceFirst_append apart named old

section

variable (found : nodes.find? (fun node => node.id.equals id) = some old)
  (kept : changed.id = old.id)
include found kept

/-- A node in the place of the first one with an id is found under the id if it has the id of the
one that it replaces. -/
theorem find?_replaceFirst :
    (replaceFirst id changed nodes).find? (fun node => node.id.equals id) = some changed := by
  -- The nodes in front do not have the id, so the new node is found first.
  obtain ⟨named, front, back, rfl, apart⟩ := split_of_find? found
  have passed : front.find? (fun node => node.id.equals id) = none := by simpa using apart
  rw [replaceFirst_append apart named, List.find?_append, passed]
  simp [kept, named]

/-- Of two nodes that are put in one place, the last one stands there. -/
theorem replaceFirst_replaceFirst (last : Node) :
    replaceFirst id last (replaceFirst id changed nodes) = replaceFirst id last nodes := by
  -- The first change keeps the id, so both changes meet the same place.
  obtain ⟨named, front, back, rfl, apart⟩ := split_of_find? found
  have again : changed.id.equals id = true := kept ▸ named
  rw [replaceFirst_append apart named, replaceFirst_append apart again,
    replaceFirst_append apart named]

/-- Under any other id the node is found that was found before, unless it is the one that was
replaced. -/
theorem find?_replaceFirst_cases {other : Json} {node : Node}
    (there : nodes.find? (fun node => node.id.equals other) = some node) :
    (replaceFirst id changed nodes).find? (fun node => node.id.equals other) = some node ∨
      (replaceFirst id changed nodes).find? (fun node => node.id.equals other) = some changed := by
  -- The first node is the one to replace, or the one that is looked for, or neither.
  induction nodes with
  | nil => cases found
  | cons first rest ih =>
    rw [List.find?_cons] at found there
    rw [replaceFirst]
    cases named : first.id.equals id with
    | true =>
      rw [named] at found
      obtain rfl : first = old := Option.some.inj found
      rw [if_pos rfl, List.find?_cons, kept]
      cases asked : first.id.equals other with
      | true => exact .inr rfl
      | false =>
        rw [asked] at there
        exact .inl there
    | false =>
      rw [named] at found
      rw [if_neg Bool.false_ne_true, List.find?_cons]
      cases asked : first.id.equals other with
      | true =>
        rw [asked] at there
        exact .inl there
      | false =>
        rw [asked] at there
        -- Neither the node to replace nor the one that is looked for: both come later.
        exact ih found there

end

/-- The document with another node in the place of the first one with an id. -/
def withNode (document : Document) (id : Json) (node : Node) : Document :=
  { document with nodes := replaceFirst id node document.nodes }

/-- A node that is put in its own place leaves a document as it is. -/
theorem withNode_self {document : Document} (found : document.node? id = some old) :
    document.withNode id old = document := by
  rw [withNode, replaceFirst_self found]

section

variable {document : Document} (found : document.node? id = some old) (kept : changed.id = old.id)
include found kept

/-- The node that is put in a place is found there. -/
theorem node?_withNode : (document.withNode id changed).node? id = some changed :=
  find?_replaceFirst found kept

/-- Of two nodes that are put in one place of a document, the last one stands there. -/
theorem withNode_withNode (last : Node) :
    (document.withNode id changed).withNode id last = document.withNode id last := by
  simp only [withNode, replaceFirst_replaceFirst found kept]

end

end Document

namespace Node

/-- Any label but null is put on the node, as its text, too. -/
theorem relabel_of_ne_null {node : Node} {label : Json} (given : label ≠ .null) :
    node.relabel label = { node with label, text := label } := by
  -- Only null leaves the label as it is.
  cases label with
  | null => exact absurd rfl given
  | _ => rfl

/-- Nothing is merged unless both sides are objects. -/
theorem update_of_apart {node : Node} {patch : Json} (label : Json)
    (apart : ∀ settings members : Json.Members,
      node.config = .obj settings → patch = .obj members → False) :
    node.update patch label = .error .wrongKind := by
  simp only [update]

end Node

namespace Workspace

variable {space : Workspace}

/-- The workspace with another node in the place of the first one with an id. -/
def withNode (space : Workspace) (id : Json) (node : Node) : Workspace :=
  space.withDocument { space.document with
    nodes := Document.replaceFirst id node space.document.nodes }

/-- A node is added at a position if there is a way to tell where that is. -/
theorem addNode_of_ne_null (space : Workspace) (type label : Json) {position : Json}
    (given : position ≠ .null) :
    space.addNode type label position =
      (dropPoint space.settings position).map fun point =>
        ((space.drawn space.supply.randoms).withDocument (space.document.addNode
          (.fresh space.settings space.nextId type label point.1 point.2)),
        space.supply.idAfter space.supply.issued) := by
  -- Any position but null is read as a point, and no random numbers are drawn for it.
  cases position with
  | null => exact absurd rfl given
  | _ =>
    simp only [addNode]
    cases dropPoint space.settings _ <;> rfl

end Workspace

/-- Something that is done to a workspace in place: what was written before a fault stays. -/
abbrev Procedure (α : Type) := ExceptT DocumentFault (StateM Workspace) α

namespace Procedure

variable {α β : Type}

/-- How a procedure ends, and the workspace that it leaves. -/
def runOn (procedure : Procedure α) (space : Workspace) : Except DocumentFault α × Workspace :=
  StateT.run procedure.run space

/-- The first node with an id, which has to be there. -/
def require (id : Json) : Procedure Node := do
  match (← get).document.node? id with
  | some node => return node
  | none => throw (.unknownNode id)

/-- Writes to the first node with an id. -/
def write (id : Json) (change : Node → Node) : Procedure Unit := do
  let space ← get
  match space.document.node? id with
  | some node =>
    let nodes := Document.replaceFirst id (change node) space.document.nodes
    set { space with document := { space.document with nodes } }
  | none => return

/-- Draws an id. -/
def drawId : Procedure String :=
  modifyGet fun space =>
    let (id, supply) := space.supply.drawId
    (id, { space with supply })

/-- Draws a random number. -/
def drawRandom : Procedure Float :=
  modifyGet fun space =>
    let (number, supply) := space.supply.drawRandom
    (number, { space with supply })

/-- Where a fresh node goes: to its position, or to a random place without one. -/
def placeNode (position : Json) : Procedure (Float × Float) := do
  let settings := (← get).settings
  match position with
  | .null =>
    let u ← drawRandom
    let v ← drawRandom
    return (settings.randomOrigin + u * settings.randomSpread,
      settings.randomOrigin + v * settings.randomSpread)
  | position => MonadExcept.ofExcept (dropPoint settings position)

/-- Adds a node: finds its place, draws its id, and then writes it down. -/
def addNode (type label position : Json) : Procedure String := do
  let (x, y) ← placeNode position
  let id ← drawId
  modify fun space => { space with
    document := space.document.addNode (.fresh space.settings (.str id) type label x y) }
  return id

/-- Merges settings into a node, and then writes its label and its text if a label is given. -/
def updateNode (id patch label : Json) : Procedure Node := do
  let node ← require id
  match node.config, patch with
  | .obj settings, .obj members =>
    write id fun node => { node with
      config := .obj (Json.Members.merge settings members)
      oddSteps := if Json.Members.contains members conditionKey then [] else node.oddSteps }
    if label ≠ .null then
      write id fun node => { node with label }
      write id fun node => { node with text := label }
    require id
  | _, _ => throw .wrongKind

/-- Writes a condition into the settings of a node, and then the text that shows it. -/
def setCondition (id condition text : Json) : Procedure Node := do
  let node ← require id
  match node.config with
  | .obj settings =>
    let pairs ← MonadExcept.ofExcept (condition.dictionaryPairs.mapError .ofPairs)
    let members := pairs.map fun pair => (pair.1.keyText, pair.2)
    write id fun node => { node with
      config := .obj (Json.Members.set settings conditionKey (.obj members))
      oddSteps := pairs.filterMap fun pair => pair.1.oddStep? }
    write id fun node => { node with text }
    require id
  | _ => throw .wrongKind

/-- Asks the rules about a connection, draws an id if they allow it, and then writes it down. -/
def connect (source sourcePort target targetPort : Json) : Procedure (Option Edge) := do
  let space ← get
  let proposal := space.document.propose source sourcePort target targetPort
  if proposal.isAllowed space.document.edges space.settings.allowSelfLoops then
    let id ← drawId
    let edge := Edge.mk (.str id) source sourcePort target targetPort
    modify fun space => { space with
      document := { space.document with edges := space.document.edges ++ [edge] } }
    return some edge
  else return none

/-- Gives a node another type, which no node takes. -/
def setType (id _type : Json) : Procedure Unit := do
  let _ ← require id
  throw .typeIsFixed

/-- Stores a form in its node, and tells whether it did. -/
def saveForm : Form → Procedure Bool
  | .condition form => do
    match form.condition? with
    | none => return false
    | some condition =>
      let text ← MonadExcept.ofExcept (form.summary.mapError .unwritable)
      let _ ← setCondition form.node (.obj condition) (.str text)
      return true
  | .step form => do
    let _ ← updateNode form.node (.obj form.values) form.label
    return true

/-- Makes a change at once: it is written as a whole, and a fault comes before anything is
written. -/
def atOnce (change : Workspace → Except DocumentFault (Workspace × α)) : Procedure α := do
  match change (← get) with
  | .ok (next, result) =>
    set next
    return result
  | .error fault => throw fault

/-- Makes a change of the document at once. -/
def atOnceIn (change : Document → Except DocumentFault (Document × α)) : Procedure α :=
  atOnce fun space => do
    let (document, result) ← change space.document
    return (space.withDocument document, result)

section Runs

variable {space : Workspace}

/-- Procedures that do the same in every workspace are the same. -/
theorem ext {first second : Procedure α}
    (same : ∀ space, first.runOn space = second.runOn space) : first = second := funext same

@[simp] theorem runOn_get : runOn get space = (.ok space, space) := rfl

@[simp] theorem runOn_set (next : Workspace) : runOn (set next) space = (.ok ⟨⟩, next) := rfl

@[simp] theorem runOn_modifyGet (change : Workspace → α × Workspace) :
    runOn (modifyGet change) space = (.ok (change space).1, (change space).2) := rfl

@[simp] theorem runOn_ofExcept (outcome : Except DocumentFault α) :
    runOn (MonadExcept.ofExcept outcome) space = (outcome, space) := by
  cases outcome <;> rfl

/-- A chain goes on in the workspace that its first part leaves, and a fault there ends it. -/
theorem runOn_bind (first : Procedure α) (next : α → Procedure β) :
    runOn (first >>= next) space = match first.runOn space with
      | (.ok result, between) => (next result).runOn between
      | (.error fault, left) => (.error fault, left) := by
  -- The monad is opened once here, so that later proofs need not know it.
  unfold runOn ExceptT.run StateT.run
  simp only [Bind.bind, ExceptT.bind, ExceptT.mk, StateT.bind, ExceptT.bindCont]
  cases first space with
  | mk outcome between => cases outcome <;> rfl

/-- What is made at once is there as a whole, or nothing was done. -/
theorem runOn_atOnce (change : Workspace → Except DocumentFault (Workspace × α)) :
    (atOnce change).runOn space = match change space with
      | .ok (next, result) => (.ok result, next)
      | .error fault => (.error fault, space) := by
  -- The state is read, and it is written only if the change succeeds.
  simp only [atOnce, runOn_bind, runOn_get]
  cases change space <;> rfl

/-- The document that is made at once takes the place of the one before. -/
theorem runOn_atOnceIn (change : Document → Except DocumentFault (Document × α)) :
    (atOnceIn change).runOn space = match change space.document with
      | .ok (document, result) => (.ok result, space.withDocument document)
      | .error fault => (.error fault, space) := by
  -- A change of the document is a change of the workspace around it.
  rw [atOnceIn, runOn_atOnce]
  cases change space.document <;> rfl

end Runs

section Nodes

variable {space : Workspace} {id : Json} {node changed : Node}

/-- A node that has to be there is looked up, and nothing is written. -/
theorem runOn_require : (require id).runOn space = match space.document.node? id with
    | some node => (.ok node, space)
    | none => (.error (.unknownNode id), space) := by
  -- Looking a node up writes nothing.
  simp only [require, runOn_bind, runOn_get]
  cases space.document.node? id <;> rfl

/-- A change of a node at once fails without the node. -/
theorem runOn_modify_of_none (absent : space.document.node? id = none)
    (change : Node → Except DocumentFault Node) :
    (atOnceIn fun document => document.modify id change).runOn space =
      (.error (.unknownNode id), space) := by
  rw [runOn_atOnceIn, Document.modify, absent]

section

variable (found : space.document.node? id = some node)
include found

/-- A node that is there is written in its place. -/
theorem runOn_write (change : Node → Node) :
    (write id change).runOn space = (.ok ⟨⟩, space.withNode id (change node)) := by
  -- The node is there by assumption, so the write finds it.
  simp only [write, runOn_bind, runOn_get, found, runOn_set]
  rfl

/-- A change of a node at once writes the node once. -/
theorem runOn_modify_of_some (change : Node → Except DocumentFault Node) :
    (atOnceIn fun document => document.modify id change).runOn space = match change node with
      | .ok changed => (.ok changed, space.withNode id changed)
      | .error fault => (.error fault, space) := by
  rw [runOn_atOnceIn, Document.modify, found]
  -- The node that was found is changed, or the document is left alone.
  cases made : change node with
  | ok changed =>
    simp only [made, Bind.bind, Except.bind, Pure.pure, Except.pure]
    rfl
  | error fault => simp only [made, Bind.bind, Except.bind]

variable (kept : changed.id = node.id)
include kept

/-- The second write to a node leaves what writing it once would leave. -/
theorem runOn_write_again (change : Node → Node) :
    (write id change).runOn (space.withNode id changed) =
      (.ok ⟨⟩, space.withNode id (change changed)) := by
  -- The first write has left its node where the second one looks for it.
  have there : (space.withNode id changed).document.node? id = some changed :=
    Document.find?_replaceFirst found kept
  have once := Document.replaceFirst_replaceFirst found kept (change changed)
  rw [runOn_write there]
  simp only [Workspace.withNode, Workspace.withDocument, once]

/-- A node is found as it was written. -/
theorem runOn_require_again :
    (require id).runOn (space.withNode id changed) = (.ok changed, space.withNode id changed) := by
  -- What was written under the id is found under it.
  have there : (space.withNode id changed).document.node? id = some changed :=
    Document.find?_replaceFirst found kept
  rw [runOn_require, there]

end

end Nodes

/-- A random place takes its two random numbers and nothing else. -/
theorem runOn_placeNode_null {space : Workspace} : (placeNode .null).runOn space =
    (.ok (randomPoint space.settings space.supply).1,
      { space with supply := (randomPoint space.settings space.supply).2 }) := rfl

/-- A place that is given is found without a trace. -/
theorem runOn_placeNode {space : Workspace} {position : Json} (given : position ≠ .null) :
    (placeNode position).runOn space = (dropPoint space.settings position, space) := by
  -- A position that is given is only checked, and no random number is drawn for it.
  rw [placeNode, runOn_bind, runOn_get]
  cases position with
  | null => exact absurd rfl given
  | _ => simp only [runOn_ofExcept]

/-- Adding a node step by step comes to adding it at once: the place is found before the id is
drawn. -/
theorem addNode_eq (type label position : Json) :
    addNode type label position = atOnce fun space => space.addNode type label position := by
  refine ext fun space => ?_
  rw [addNode, runOn_bind, runOn_atOnce]
  -- Without a position two random numbers are drawn first.
  by_cases given : position = .null
  · rw [given, runOn_placeNode_null]
    rfl
  · rw [runOn_placeNode given, space.addNode_of_ne_null type label given]
    cases dropPoint space.settings position <;> rfl

/-- Merging settings before the label is written comes to doing both at once. -/
theorem updateNode_eq (id patch label : Json) :
    updateNode id patch label = atOnceIn fun document => document.updateNode id patch label := by
  -- Past the kinds of the settings and of the patch nothing fails, and all writes go to one node.
  refine ext fun space => ?_
  rw [updateNode, runOn_bind, runOn_require]
  cases found : space.document.node? id with
  | none => exact (runOn_modify_of_none found _).symm
  | some node =>
    refine Eq.trans ?_ (runOn_modify_of_some found fun node => node.update patch label).symm
    dsimp only
    split
    · rename_i settings members held
      rw [runOn_bind, runOn_write found]
      simp only [Node.update, held]
      -- A label is written after the settings, in two writes of the node.
      by_cases given : label = .null
      · rw [given]
        exact runOn_require_again found rfl
      · simp only [Node.relabel_of_ne_null given]
        rw [if_pos given, runOn_bind, runOn_write_again found]
        dsimp only
        rw [runOn_bind, runOn_write_again found]
        · exact runOn_require_again found rfl
        · rfl
        · rfl
    · rename_i apart
      rw [Node.update_of_apart label apart]
      rfl

/-- Writing a condition before its text comes to writing both at once. -/
theorem setCondition_eq (id condition text : Json) :
    setCondition id condition text =
      atOnceIn fun document => document.setCondition id condition text := by
  -- The condition is gone through before anything of it is written.
  refine ext fun space => ?_
  rw [setCondition, runOn_bind, runOn_require]
  cases found : space.document.node? id with
  | none => exact (runOn_modify_of_none found _).symm
  | some node =>
    refine Eq.trans ?_
      (runOn_modify_of_some found fun node => node.withCondition condition text).symm
    dsimp only
    split
    · rename_i settings held
      simp only [Node.withCondition, held]
      rw [runOn_bind, runOn_ofExcept]
      cases condition.dictionaryPairs with
      | error fault => rfl
      | ok pairs =>
        dsimp only [Except.mapError]
        rw [runOn_bind, runOn_write found]
        dsimp only
        rw [runOn_bind, runOn_write_again found]
        · exact runOn_require_again found rfl
        · rfl
    -- Settings that are no object make both end alike.
    · rename_i apart
      simp only [Node.withCondition]
      rfl

/-- Asking the rules before the id is drawn comes to connecting at once. -/
theorem connect_eq (source sourcePort target targetPort : Json) :
    connect source sourcePort target targetPort =
      atOnce fun space => .ok (space.connect source sourcePort target targetPort) := by
  refine ext fun space => ?_
  rw [connect, runOn_bind, runOn_get, runOn_atOnce]
  simp only [Workspace.connect, Document.connect, Supply.drawId]
  -- An id is drawn only once the connection is known to be allowed.
  split
  · rw [runOn_bind, drawId, runOn_modifyGet]
    rfl
  · rfl

/-- A type is refused at once. -/
theorem setType_eq (id type : Json) :
    setType id type = atOnceIn fun document => (document.setType id type).map (·, ⟨⟩) := by
  -- Nothing is written before the lookup, so the order of the two does not show.
  refine ext fun space => ?_
  rw [setType, runOn_bind, runOn_require, runOn_atOnceIn, Document.setType]
  cases space.document.node? id <;> rfl

/-- Saving a form in place comes to saving it at once. -/
theorem saveForm_eq (form : Form) : saveForm form = atOnceIn form.save := by
  refine ext fun space => ?_
  -- A form saves nothing but one node, so it ends as the change of that node does.
  cases form with
  | condition form =>
    rw [saveForm, runOn_atOnceIn, Form.save, ConditionForm.save]
    cases form.condition? with
    | none => rfl
    | some condition =>
      dsimp only
      rw [runOn_bind, runOn_ofExcept]
      -- A text that cannot be made ends both before anything is written.
      cases form.summary with
      | error reason => rfl
      | ok text =>
        dsimp only [Except.mapError]
        rw [runOn_bind, setCondition_eq, runOn_atOnceIn]
        cases written : space.document.setCondition form.node (.obj condition) (.str text) with
        | error fault => simp only [written, Bind.bind, Except.bind]
        | ok outcome => simp only [written, Bind.bind, Except.bind]; rfl
  | step form =>
    rw [saveForm, runOn_bind, updateNode_eq, runOn_atOnceIn, runOn_atOnceIn, Form.save,
      StepForm.save]
    cases space.document.updateNode form.node (.obj form.values) form.label <;> rfl

end Procedure

end Flowchart
