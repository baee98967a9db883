import Flowchart.Document.Session
import Flowchart.Proofs.Document.Connection
import Flowchart.Proofs.Outcome

/-! What one operation can do to a document under edit, and what a run of operations keeps. -/

namespace Flowchart

/-- An operation that works on the document at hand; only a replacement brings another one. -/
def Operation.IsEdit : Operation → Prop
  | .replace _ => False
  | _ => True

/-- Relabelling keeps the frame of a node. -/
@[simp] theorem Node.relabel_frame (node : Node) (label : Json) :
    (node.relabel label).frame = node.frame := by
  cases label <;> rfl

/-- Relabelling keeps the settings of a node. -/
@[simp] theorem Node.relabel_config (node : Node) (label : Json) :
    (node.relabel label).config = node.config := by
  cases label <;> rfl

/-- Settings are merged if both sides are objects. A condition that is put in the place of the old
one has texts for its keys. -/
theorem Node.update_eq_ok {node changed : Node} {patch label : Json} :
    node.update patch label = .ok changed ↔
      ∃ settings members : Json.Members, node.config = .obj settings ∧ patch = .obj members ∧
        changed = ({ node with
          config := .obj (settings.merge members)
          oddSteps := if members.contains conditionKey then [] else node.oddSteps
          } : Node).relabel label := by
  simp only [update]
  -- Settings and patch are merged only if both are objects.
  split
  · rename_i settings members held
    simp [held, @eq_comm _ changed]
  · rename_i apart
    simp only [reduceCtorEq, false_iff]
    rintro ⟨settings, members, held, given, -⟩
    exact apart settings members held given

/-- Keys that are texts leave no steps behind. -/
theorem Json.oddSteps_eq_nil {pairs : List (Json × Json)}
    (keyed : ∀ pair ∈ pairs, ∃ key, pair.1 = .str key) :
    (pairs.filterMap fun pair => pair.1.oddStep?) = [] := by
  -- A key that is a text is no odd one.
  refine List.filterMap_eq_nil_iff.mpr fun pair given => ?_
  obtain ⟨key, spelled⟩ := keyed pair given
  rw [spelled]
  rfl

/-- A condition is stored if the settings are an object and the condition has pairs to store. -/
theorem Node.withCondition_eq_ok {node changed : Node} {condition text : Json} :
    node.withCondition condition text = .ok changed ↔
      ∃ (settings : Json.Members) (pairs : List (Json × Json)), node.config = .obj settings ∧
        condition.dictionaryPairs = .ok pairs ∧
        changed = { node with
          config := .obj (settings.set conditionKey
            (.obj (pairs.map fun pair => (pair.1.keyText, pair.2))))
          text
          oddSteps := pairs.filterMap fun pair => pair.1.oddStep? } := by
  simp only [withCondition]
  -- A condition is stored only in settings that are an object.
  split
  · rename_i settings held
    simp [held, bind_eq_ok, Pure.pure, Except.pure, @eq_comm _ changed]
  · rename_i apart
    simp only [reduceCtorEq, false_iff]
    rintro ⟨settings, pairs, held, -⟩
    exact apart settings held

/-- A condition that is an object is stored as it is. -/
theorem Node.withCondition_obj {node : Node} {settings : Json.Members}
    (configured : node.config = .obj settings) (condition : Json.Members) (text : Json) :
    node.withCondition (.obj condition) text = .ok { node with
      config := .obj (settings.set conditionKey (.obj condition)), text, oddSteps := [] } := by
  -- All keys of an object are texts, so they come out as they went in.
  let pairs : List (Json × Json) := condition.map fun member => (.str member.1, member.2)
  have keyed : ∀ pair ∈ pairs, ∃ key, pair.1 = .str key := by
    intro pair given
    obtain ⟨member, -, rfl⟩ := List.mem_map.mp given
    exact ⟨member.1, rfl⟩
  have same : pairs.map (fun pair => (pair.1.keyText, pair.2)) = condition := by
    rw [List.map_map]
    exact List.map_id' condition
  refine withCondition_eq_ok.mpr ⟨settings, pairs, configured, rfl, ?_⟩
  rw [Json.oddSteps_eq_nil keyed, same]

/-- Merging settings into a node keeps its frame. -/
theorem Node.update_frame {node changed : Node} {patch label : Json}
    (updated : node.update patch label = .ok changed) : changed.frame = node.frame := by
  -- Whatever is merged, only settings, label and text are written.
  obtain ⟨settings, members, -, -, rfl⟩ := update_eq_ok.mp updated
  rw [relabel_frame]
  rfl

/-- Storing a condition keeps the frame of a node. -/
theorem Node.withCondition_frame {node changed : Node} {condition text : Json}
    (stored : node.withCondition condition text = .ok changed) : changed.frame = node.frame := by
  -- A condition goes into the settings, which are no part of the frame.
  obtain ⟨settings, pairs, -, -, rfl⟩ := withCondition_eq_ok.mp stored
  rfl

namespace Document

/-- A change goes to the first node with the id, and to no other. -/
theorem modify_eq_ok {document next : Document} {id : Json} {changed : Node}
    {change : Node → Except DocumentFault Node} :
    document.modify id change = .ok (next, changed) ↔
      ∃ old, document.node? id = some old ∧ change old = .ok changed ∧
        next = { document with nodes := replaceFirst id changed document.nodes } := by
  simp only [modify]
  -- The node has to be found, and the change of it must not fail.
  cases found : document.node? id with
  | none => simp
  | some old =>
    cases outcome : change old with
    | error fault => simp [outcome, Bind.bind, Except.bind]
    | ok made =>
      simp only [outcome, Bind.bind, Except.bind, Pure.pure, Except.pure, Except.ok.injEq,
        Prod.mk.injEq, Option.some.injEq, exists_eq_left']
      constructor
      · rintro ⟨rfl, rfl⟩
        exact ⟨rfl, rfl⟩
      · rintro ⟨rfl, rfl⟩
        exact ⟨rfl, rfl⟩

/-- A node put in the place of the first one with an id is either that node or one of the rest. -/
theorem mem_replaceFirst {id : Json} {changed node : Node} {nodes : List Node}
    (member : node ∈ replaceFirst id changed nodes) : node = changed ∨ node ∈ nodes := by
  -- The search ends at the node that is replaced, and the nodes behind it stay.
  induction nodes with
  | nil => simp [replaceFirst] at member
  | cons first rest ih =>
    simp only [replaceFirst] at member
    split at member
    · rcases List.mem_cons.mp member with same | later
      · exact .inl same
      · exact .inr (List.mem_cons_of_mem _ later)
    · rcases List.mem_cons.mp member with same | later
      · exact .inr (same ▸ List.mem_cons_self)
      · exact (ih later).imp_right (List.mem_cons_of_mem _)

/-- A change that keeps the frame of its node keeps all frames in their places. -/
theorem replaceFirst_frames {id : Json} {old changed : Node} {nodes : List Node}
    (found : nodes.find? (fun node => node.id.equals id) = some old)
    (kept : changed.frame = old.frame) :
    (replaceFirst id changed nodes).map Node.frame = nodes.map Node.frame := by
  -- The node that is found and the node that is replaced are both the first one with the id.
  induction nodes with
  | nil => rfl
  | cons first rest ih =>
    rw [List.find?_cons] at found
    cases named : first.id.equals id with
    | true =>
      simp only [named, Option.some.injEq] at found
      subst old
      simp [replaceFirst, named, kept]
    | false =>
      simp only [named] at found
      simp [replaceFirst, named, ih found]

end Document

namespace Workspace

/-- The workspace with another document. -/
def withDocument (space : Workspace) (document : Document) : Workspace := { space with document }

/-- The id that is drawn next. -/
def nextId (space : Workspace) : Json := .str (space.supply.idAfter space.supply.issued)

/-- The workspace after an id and some random numbers are drawn. -/
def drawn (space : Workspace) (randoms : List Float) : Workspace :=
  { space with supply := { space.supply with issued := space.supply.issued + 1, randoms } }

section

variable {space : Workspace} {source sourcePort target targetPort : Json}

/-- A connection that is refused changes nothing. -/
theorem connect_of_none (refused : space.document.connect space.settings.allowSelfLoops
    space.nextId source sourcePort target targetPort = none) :
    space.connect source sourcePort target targetPort = (space, none) := by
  -- A refused request draws an id that is thrown away.
  simp only [nextId] at refused
  simp only [connect, Supply.drawId, refused]

/-- A connection that is made takes the next id and no random numbers. -/
theorem connect_of_some {document : Document} {edge : Edge}
    (made : space.document.connect space.settings.allowSelfLoops space.nextId source sourcePort
      target targetPort = some (document, edge)) :
    space.connect source sourcePort target targetPort =
      ((space.drawn space.supply.randoms).withDocument document, some edge) := by
  -- The id is drawn before the edge is made, and the supply has moved on.
  simp only [nextId] at made
  simp only [connect, Supply.drawId, made]
  rfl

end

/-- What an operation can do, with everything that has to hold for it. -/
inductive Step (space : Workspace) : Operation → Workspace → Prop where
  | unchanged (operation : Operation) : Step space operation space
  | added (type label position : Json) (x y : Float) (randoms : List Float) :
    Step space (.addNode type label position)
      ((space.drawn randoms).withDocument
        (space.document.addNode (.fresh space.settings space.nextId type label x y)))
  | updated {id patch label : Json} {old changed : Node}
    (found : space.document.node? id = some old) (merged : old.update patch label = .ok changed) :
    Step space (.updateNode id patch label) (space.withDocument
      { space.document with nodes := Document.replaceFirst id changed space.document.nodes })
  | conditioned {id condition text : Json} {old changed : Node}
    (found : space.document.node? id = some old)
    (stored : old.withCondition condition text = .ok changed) :
    Step space (.setCondition id condition text) (space.withDocument
      { space.document with nodes := Document.replaceFirst id changed space.document.nodes })
  | nodeRemoved (id : Json) :
    Step space (.removeNode id) (space.withDocument (space.document.removeNode id))
  | edgeRemoved (id : Json) :
    Step space (.removeEdge id) (space.withDocument (space.document.removeEdge id))
  | connected {source sourcePort target targetPort : Json} {edge : Edge}
    (made : edge = ⟨space.nextId, source, sourcePort, target, targetPort⟩)
    (joins : space.document.Joins edge) (fresh : edge.ends ∉ space.document.edges.map Edge.ends)
    (loops : space.settings.allowSelfLoops = true ∨ edge.source.equals edge.target = false) :
    Step space (.connect source sourcePort target targetPort)
      ((space.drawn space.supply.randoms).withDocument
        { space.document with edges := space.document.edges ++ [edge] })
  | cleared : Step space .clear (space.withDocument space.document.clear)

/-- Where a node comes from that is there after an operation. -/
inductive NodeOrigin (space : Workspace) (operation : Operation) (node : Node) : Prop where
  | kept (before : node ∈ space.document.nodes)
  | fresh (type label position : Json) (x y : Float)
    (asked : operation = .addNode type label position)
    (made : node = .fresh space.settings space.nextId type label x y)
  | updated (id patch label : Json) (old : Node) (asked : operation = .updateNode id patch label)
    (found : space.document.node? id = some old) (merged : old.update patch label = .ok node)
  | conditioned (id condition text : Json) (old : Node)
    (asked : operation = .setCondition id condition text)
    (found : space.document.node? id = some old)
    (stored : old.withCondition condition text = .ok node)

/-- Only an added node and a changed one are new after a step; all others stay or go. -/
theorem Step.origin {space next : Workspace} {operation : Operation}
    (step : space.Step operation next) {node : Node} (member : node ∈ next.document.nodes) :
    space.NodeOrigin operation node := by
  -- Every step keeps nodes or drops them; three kinds bring a node that was not there.
  cases step with
  | unchanged => exact .kept member
  | added type label position x y randoms =>
    rcases List.mem_append.mp member with old | new
    · exact .kept old
    · exact .fresh type label position x y rfl (List.mem_singleton.mp new)
  | @updated id patch label old changed found merged =>
    rcases Document.mem_replaceFirst member with rfl | before
    · exact .updated id patch label old rfl found merged
    · exact .kept before
  | @conditioned id condition text old changed found stored =>
    rcases Document.mem_replaceFirst member with rfl | before
    · exact .conditioned id condition text old rfl found stored
    · exact .kept before
  | nodeRemoved id => exact .kept (List.mem_filter.mp member).1
  | edgeRemoved id => exact .kept member
  | connected => exact .kept member
  | cleared => cases member

/-- What holds of a fresh node, and of a changed node if it held of the old one, a step keeps for
all nodes. -/
theorem Step.nodes_forall {space next : Workspace} {operation : Operation} {property : Node → Prop}
    (step : space.Step operation next)
    (fresh : ∀ type label position x y, operation = .addNode type label position →
      property (.fresh space.settings space.nextId type label x y))
    (updated : ∀ id patch label old changed, operation = .updateNode id patch label →
      old.update patch label = .ok changed → property old → property changed)
    (conditioned : ∀ id condition text old changed, operation = .setCondition id condition text →
      old.withCondition condition text = .ok changed → property old → property changed)
    (each : ∀ node ∈ space.document.nodes, property node) :
    ∀ node ∈ next.document.nodes, property node := by
  intro node member
  -- What a step has brought is described by its origin, and the rest was there before.
  cases step.origin member with
  | kept before => exact each node before
  | fresh type label position x y asked made =>
    exact made ▸ fresh type label position x y asked
  | updated id patch label old asked found merged =>
    exact updated id patch label old node asked merged (each old (Document.node?_mem found))
  | conditioned id condition text old asked found stored =>
    exact conditioned id condition text old node asked stored (each old (Document.node?_mem found))

/-- An edge that is there after a step was there before, or it is one that may be drawn. -/
theorem Step.edge_mem {space next : Workspace} {operation : Operation}
    (step : space.Step operation next) {edge : Edge} (member : edge ∈ next.document.edges) :
    edge ∈ space.document.edges ∨ space.document.Joins edge ∧
      (space.settings.allowSelfLoops = true ∨ edge.source.equals edge.target = false) := by
  cases step with
  | nodeRemoved id => exact .inl (List.mem_filter.mp member).1
  | edgeRemoved id => exact .inl (List.mem_filter.mp member).1
  | connected made joins fresh loops =>
    rcases List.mem_append.mp member with old | new
    · exact .inl old
    · rw [List.mem_singleton.mp new]
      exact .inr ⟨joins, loops⟩
  | cleared => cases member
  -- No other step touches the edges.
  | _ => exact .inl member

/-- A random point takes nothing but random numbers. -/
theorem randomPoint_supply (settings : Settings) (supply : Supply) :
    ∃ randoms, (randomPoint settings supply).2 = { supply with randoms } := by
  -- A random number is taken from the list or stands for an empty one; ids are not touched.
  have draw (supply : Supply) : ∃ randoms, supply.drawRandom.2 = { supply with randoms } := by
    unfold Supply.drawRandom
    split
    · exact ⟨_, rfl⟩
    · exact ⟨supply.randoms, rfl⟩
  obtain ⟨first, once⟩ := draw supply
  obtain ⟨second, twice⟩ := draw supply.drawRandom.2
  exact ⟨second, twice.trans (by rw [once])⟩

/-- A node that is added is a fresh one under the next id. -/
theorem addNode_eq_ok {space next : Workspace} {type label position : Json} {id : String}
    (added : space.addNode type label position = .ok (next, id)) :
    ∃ x y randoms, .str id = space.nextId ∧ next = (space.drawn randoms).withDocument
      (space.document.addNode (.fresh space.settings space.nextId type label x y)) := by
  -- Where the node goes decides only which random numbers are used up.
  unfold addNode at added
  split at added
  · obtain ⟨randoms, taken⟩ := randomPoint_supply space.settings space.supply
    simp only [Supply.drawId, Bind.bind, Except.bind, Pure.pure, Except.pure, Except.ok.injEq,
      Prod.mk.injEq, taken] at added
    obtain ⟨rfl, rfl⟩ := added
    exact ⟨_, _, randoms, rfl, rfl⟩
  · cases placed : dropPoint space.settings position with
    | error fault => simp [placed, Except.map, Bind.bind, Except.bind] at added
    | ok point =>
      simp only [placed, Except.map, Supply.drawId, Bind.bind, Except.bind, Pure.pure,
        Except.pure, Except.ok.injEq, Prod.mk.injEq] at added
      obtain ⟨rfl, rfl⟩ := added
      exact ⟨point.1, point.2, space.supply.randoms, rfl, rfl⟩

/-- Every edit is one of the steps; those that fail change nothing. -/
theorem after_step (space : Workspace) {operation : Operation} (edit : operation.IsEdit) :
    space.Step operation (space.after operation) := by
  -- Each kind of operation is opened once, here.
  cases operation with
  | addNode type label position =>
    cases outcome : space.addNode type label position with
    | error fault => simpa [after, perform, outcome, Bind.bind, Except.bind] using .unchanged _
    | ok made =>
      obtain ⟨x, y, randoms, _, same⟩ := addNode_eq_ok outcome
      simp only [after, perform, outcome, Bind.bind, Except.bind, Pure.pure, Except.pure, same]
      exact .added type label position x y randoms
  | updateNode id patch label =>
    cases outcome : space.document.updateNode id patch label with
    | error fault => simpa [after, perform, outcome, Bind.bind, Except.bind] using .unchanged _
    | ok made =>
      obtain ⟨old, found, merged, same⟩ := Document.modify_eq_ok.mp outcome
      simp only [after, perform, outcome, Bind.bind, Except.bind, Pure.pure, Except.pure, same]
      exact .updated found merged
  | setCondition id condition text =>
    cases outcome : space.document.setCondition id condition text with
    | error fault => simpa [after, perform, outcome, Bind.bind, Except.bind] using .unchanged _
    | ok made =>
      obtain ⟨old, found, stored, same⟩ := Document.modify_eq_ok.mp outcome
      simp only [after, perform, outcome, Bind.bind, Except.bind, Pure.pure, Except.pure, same]
      exact .conditioned found stored
  | setType id type =>
    -- The type of a node is never set, whether there is such a node or not.
    have refused : space.after (.setType id type) = space := by
      simp only [after, perform, Document.setType]
      cases space.document.node? id <;> rfl
    rw [refused]
    exact .unchanged _
  | removeNode id => exact .nodeRemoved id
  | removeEdge id => exact .edgeRemoved id
  | connect source sourcePort target targetPort =>
    cases outcome : space.document.connect space.settings.allowSelfLoops space.nextId source
        sourcePort target targetPort with
    | none =>
      -- A connection that is refused leaves everything as it is.
      have refused : space.after (.connect source sourcePort target targetPort) = space := by
        simp only [after, perform, connect_of_none outcome]
      rw [refused]
      exact .unchanged _
    | some made =>
      -- One that is accepted has passed the rule, and the step keeps what the rule says.
      obtain ⟨edge, same, joins, fresh, loops⟩ := Document.connect_eq_some.mp outcome
      have accepted : space.after (.connect source sourcePort target targetPort) =
          (space.drawn space.supply.randoms).withDocument
            { space.document with edges := space.document.edges ++ [made.2] } := by
        simp only [after, perform, connect_of_some outcome, same]
      rw [accepted]
      exact .connected edge joins fresh loops
  | clear => exact .cleared
  | replace document => exact edit.elim

/-- A run is its first operation and then the rest of it. -/
theorem run_cons (space : Workspace) (operation : Operation) (rest : List Operation) :
    space.run (operation :: rest) = (space.after operation).run rest := rfl

/-- What every allowed step keeps, a run of allowed operations keeps. -/
theorem run_keeps {allowed : Operation → Prop} {property : Workspace → Prop}
    (edits : ∀ operation, allowed operation → operation.IsEdit)
    (kept : ∀ {space next : Workspace} {operation : Operation}, allowed operation →
      space.Step operation next → property space → property next)
    {operations : List Operation} (each : ∀ operation ∈ operations, allowed operation)
    {space : Workspace} (start : property space) : property (space.run operations) := by
  -- The induction follows the run, so the starting workspace stays free.
  induction operations generalizing space with
  | nil => exact start
  | cons operation rest ih =>
    have first : allowed operation := each operation List.mem_cons_self
    rw [run_cons]
    exact ih (fun later member => each later (List.mem_cons_of_mem _ member))
      (kept first (space.after_step (edits operation first)) start)

end Workspace

end Flowchart
