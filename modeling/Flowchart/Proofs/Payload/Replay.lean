import Flowchart.Document.Session
import Flowchart.Proofs.Document.Steps
import Flowchart.Proofs.Payload.References

/-! The check of a payload and the rule for connections made by hand agree: a payload passes exactly
if its edges can be drawn one after the other. -/

namespace Flowchart

/-- The ids that an edge joins. -/
def Edge.joined (edge : Edge) : Json × Json × Json × Json :=
  (edge.source, edge.sourcePort, edge.target, edge.targetPort)

/-- The restored document before any of its edges is drawn. -/
def Payload.canvas (payload : Payload) : Document := { payload.toDocument with edges := [] }

namespace Workspace

/-- Makes the connection of every edge in turn, as long as none is refused. -/
def replay (space : Workspace) : List EdgePayload → Option Workspace
  | [] => some space
  | edge :: rest =>
    match space.connect (.str edge.source) (.str edge.sourcePort) (.str edge.target)
        (.str edge.targetPort) with
    | (next, some _) => next.replay rest
    | (_, none) => none

variable {space : Workspace}

/-- Where loops are allowed, a connection is made or refused by what it joins. -/
theorem connect_cases (loops : space.settings.allowSelfLoops = true) (edge : EdgePayload) :
    (∃ next made, space.connect (.str edge.source) (.str edge.sourcePort) (.str edge.target)
        (.str edge.targetPort) = (next, some made) ∧
      made.joined = edge.toEdge.joined ∧ next.settings = space.settings ∧
      next.document = { space.document with edges := space.document.edges ++ [made] } ∧
      space.document.Joins edge.toEdge ∧
      edge.toEdge.ends ∉ space.document.edges.map Edge.ends) ∨
    space.connect (.str edge.source) (.str edge.sourcePort) (.str edge.target)
        (.str edge.targetPort) = (space, none) ∧
      ¬ (space.document.Joins edge.toEdge ∧
        edge.toEdge.ends ∉ space.document.edges.map Edge.ends) := by
  -- Connecting draws the edge under a fresh id, which no rule of joining looks at.
  let drawn : Edge := { edge.toEdge with id := space.nextId }
  have same : space.document.Joins drawn ↔ space.document.Joins edge.toEdge :=
    Document.joins_withId edge.toEdge space.nextId
  cases outcome : space.document.connect space.settings.allowSelfLoops space.nextId
      (.str edge.source) (.str edge.sourcePort) (.str edge.target) (.str edge.targetPort) with
  | some result =>
    obtain ⟨spelled, grown, joins, fresh, _⟩ := Document.connect_eq_some.mp outcome
    have made : result.2 = drawn := spelled
    rw [made] at joins fresh
    exact .inl ⟨_, result.2, connect_of_some outcome, by rw [made]; rfl, rfl, grown,
      same.mp joins, fresh⟩
  -- A refusal with both rules kept would contradict what connecting accepts.
  | none =>
    refine .inr ⟨connect_of_none outcome, ?_⟩
    rintro ⟨joins, fresh⟩
    have accepted := Document.connect_eq_some.mpr
      ⟨rfl, rfl, same.mpr joins, fresh, Or.inl loops⟩
    exact absurd (outcome.symm.trans accepted) (by simp)

/-- A replay comes to its end exactly if every edge joins an output to an input and no connection
is made twice. -/
theorem replay_isSome (loops : space.settings.allowSelfLoops = true) {edges : List EdgePayload}
    (distinct : (space.document.edges.map Edge.ends).Nodup) :
    (∃ done, space.replay edges = some done) ↔
      ((space.document.edges ++ edges.map EdgePayload.toEdge).map Edge.ends).Nodup ∧
        ∀ edge ∈ edges, space.document.Joins edge.toEdge := by
  -- Each edge that is drawn changes the document, so the workspace stays free.
  induction edges generalizing space with
  | nil => simp [replay, distinct]
  | cons edge rest ih =>
    have ends (made : Edge) (same : made.joined = edge.toEdge.joined) :
        made.ends = edge.toEdge.ends := by
      simp only [Edge.joined, Prod.mk.injEq] at same
      obtain ⟨source, sourcePort, target, targetPort⟩ := same
      simp only [Edge.ends, source, sourcePort, target, targetPort]
    rw [replay]
    rcases connect_cases loops edge with ⟨next, made, outcome, same, settings, grown, joins,
      fresh⟩ | ⟨outcome, broken⟩
    -- The edge is drawn. The nodes are the same, so the later edges join as they did.
    · have nodes := @Document.joins_iff_of_nodes next.document space.document (by rw [grown])
      have step : (next.document.edges.map Edge.ends).Nodup := by
        rw [grown, List.map_append, List.map_cons, List.map_nil, ends made same,
          ← List.concat_eq_append]
        exact List.Nodup.concat fresh distinct
      simp only [outcome, ih (settings ▸ loops) step, nodes]
      simp [grown, ends made same, joins]
    · have failed : ¬ (((space.document.edges ++ (edge :: rest).map EdgePayload.toEdge).map
          Edge.ends).Nodup ∧ ∀ later ∈ edge :: rest, space.document.Joins later.toEdge) := by
        rintro ⟨all, joins⟩
        refine broken ⟨joins edge List.mem_cons_self, fun member => ?_⟩
        rw [List.map_append, List.nodup_append] at all
        exact all.2.2 _ member _ (by simp) rfl
      simp only [outcome, failed, reduceCtorEq, exists_false]

/-- A replay that comes to its end has drawn the edges in their order. -/
theorem replay_joined (loops : space.settings.allowSelfLoops = true) {edges : List EdgePayload}
    {done : Workspace} (replayed : space.replay edges = some done) :
    done.document.edges.map Edge.joined =
      (space.document.edges ++ edges.map EdgePayload.toEdge).map Edge.joined := by
  -- Each edge that is drawn goes to the end, so the order is that of the payload.
  induction edges generalizing space with
  | nil =>
    simp only [replay, Option.some.injEq] at replayed
    simp [replayed]
  | cons edge rest ih =>
    rw [replay] at replayed
    rcases connect_cases loops edge with ⟨next, made, outcome, same, settings, grown, _⟩ |
      ⟨outcome, _⟩
    · simp only [outcome] at replayed
      rw [ih (settings ▸ loops) replayed, grown]
      simp [same]
    · simp [outcome] at replayed

end Workspace

/-- A payload whose nodes have distinct ports passes the check exactly if its ids are distinct and
its edges can be drawn by hand one after the other; drawn by hand they are the same edges in the
same order. -/
theorem Payload.checkReferences_iff_replay {payload : Payload} {settings : Settings}
    (distinct : ∀ node ∈ payload.nodes, node.PortsDistinct)
    (loops : settings.allowSelfLoops = true) (supply : Supply) :
    (payload.checkReferences = .ok () ↔
      (payload.nodes.map NodePayload.id).Nodup ∧ (payload.edges.map EdgePayload.id).Nodup ∧
        ∃ done, (Workspace.mk payload.canvas settings supply).replay payload.edges = some done) ∧
    ∀ done, (Workspace.mk payload.canvas settings supply).replay payload.edges = some done →
      done.document.edges.map Edge.joined =
        payload.edges.map fun edge => edge.toEdge.joined := by
  let space := Workspace.mk payload.canvas settings supply
  constructor
  -- The empty canvas has the nodes of the payload and no edge yet, so all that is said of drawing
  -- is said of the edges of the payload.
  · have joins := @Document.joins_iff_of_nodes payload.toDocument space.document rfl
    have replayed := @Workspace.replay_isSome space loops payload.edges List.nodup_nil
    have ends := EdgePayload.ends_nodup payload.edges
    rw [checkReferences_eq_ok distinct, replayed, ← ends]
    simp only [joins]
    rfl
  · intro done replayed
    have drawn := @Workspace.replay_joined space loops payload.edges done replayed
    rw [drawn]
    simp [space, canvas]

/-- A branch with two ports of its own behind a start with the ports of its type. -/
def Payload.askFirst : Payload where
  nodes := [
    ⟨"a", "start", some "", some "", [], none, none, [], [], []⟩,
    ⟨"b", "if", some "", some "", [], none, none, [⟨"enter", .input⟩, ⟨"yes", .trueOutput⟩], [],
      []⟩]
  edges := [⟨"first", "a", "out", "b", "enter"⟩, ⟨"second", "b", "yes", "b", "enter"⟩]
  viewport := []

/-- The check lets a node feed itself, and so does the rule for connections made by hand. -/
theorem Payload.askFirst_replay :
    (∀ node ∈ askFirst.nodes, node.PortsDistinct) ∧ Settings.default.allowSelfLoops = true ∧
      askFirst.checkReferences = .ok () ∧
      ∃ done, (Workspace.mk askFirst.canvas .default (.numbered [])).replay askFirst.edges =
        some done ∧ done.document.edges.map Edge.joined =
          askFirst.edges.map fun edge => edge.toEdge.joined := by
  have distinct : ∀ node ∈ askFirst.nodes, node.PortsDistinct := by
    simp [askFirst, NodePayload.PortsDistinct]
  have passes : askFirst.checkReferences = .ok () := by rfl
  have loops : Settings.default.allowSelfLoops = true := rfl
  -- The check passes by computation, and the theorem makes the replay of it.
  obtain ⟨agree, drawn⟩ := checkReferences_iff_replay distinct loops (.numbered [])
  obtain ⟨_, _, done, replayed⟩ := agree.mp passes
  exact ⟨distinct, loops, passes, done, replayed, drawn done replayed⟩

end Flowchart
