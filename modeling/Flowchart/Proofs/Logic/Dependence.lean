import Flowchart.Proofs.Logic.Connections

/-! What the logic of a document depends on: the ids, the types, the ports and the labels of its
nodes in their order, the conditions of branches and the settings of all other nodes, and for each
node and each group of its ports the edges that leave there, in their order. Two documents that
agree on these come to the same logic, whatever else they hold. -/

namespace Flowchart

/-- Two nodes are alike to the logic of a document: they have one id, one type, the same ports and
one label, where an empty one counts as none. The settings of their steps, which for a branch are
its condition, are the same in the given sense. -/
structure Node.Alike (same : Json.Members → Json.Members → Prop) (first second : Node) : Prop where
  id : first.id = second.id
  type : first.type = second.type
  ports : first.ports = second.ports
  label : (if first.label.isTruthy then first.label else .null) =
    if second.label.isTruthy then second.label else .null
  settings : OutcomesAlike same first.stepSettings second.stepSettings
  keyed : first.isBranch = true → first.oddSteps = second.oddSteps

/-- Two steps are alike: they differ in their settings at most, and those are the same in the given
sense. -/
structure LogicStep.Alike (same : Json.Members → Json.Members → Prop) (first second : LogicStep) :
    Prop where
  id : first.id = second.id
  type : first.type = second.type
  label : first.label = second.label
  config : same first.config second.config
  next : first.next = second.next
  nextTrue : first.nextTrue = second.nextTrue
  nextFalse : first.nextFalse = second.nextFalse

/-- The logic of one document is alike to that of another: it has one start, and the steps are alike
in their order. -/
structure Logic.Alike (same : Json.Members → Json.Members → Prop) (first second : Logic) :
    Prop where
  start : first.start = second.start
  steps : List.Forall₂ (LogicStep.Alike same) first.steps second.steps

/-- An edge whatever its id. -/
def Edge.unnamed (edge : Edge) : Edge := { edge with id := .null }

/-- The edges of one document are those of another, whatever their ids, at other places. Of two
edges that leave a node through one group the same one comes first. -/
def Document.Rearranged (first second : Document) : Prop :=
  ∃ place : Fin first.edges.length ≃ Fin second.edges.length,
    (∀ i, (second.edges.get (place i)).unnamed = (first.edges.get i).unnamed) ∧
    ∀ i j group, i < j →
      (first.edges.get i).source.isSame (first.edges.get j).source = true →
      first.group? (first.edges.get i) = some group →
      first.group? (first.edges.get j) = some group → place i < place j

/-- Edges that are the same whatever their ids have the same ends. -/
theorem Edge.ends_of_unnamed {edge other : Edge} (same : other.unnamed = edge.unnamed) :
    other.source = edge.source ∧ other.sourcePort = edge.sourcePort ∧
      other.target = edge.target := by
  -- An edge without its id still has its ends.
  simp only [unnamed, mk.injEq, true_and] at same
  exact ⟨same.1, same.2.1, same.2.2.1⟩

/-- Objects that are equal as values: the order of members does not matter, and numbers count as
what they stand for. -/
def Json.Members.Same (first second : Members) : Prop := (obj first).isSame (obj second) = true

/-- Two lists that go side by side are searched alike: what is found in one of them has the same
value as what is found in the other. -/
theorem find?_bind_of_forall₂ {α β γ : Type} {beside : α → β → Prop} {items : List α}
    {others : List β} {test : α → Bool} {test' : β → Bool} {value : α → Option γ}
    {value' : β → Option γ} (lists : List.Forall₂ beside items others)
    (tests : ∀ item other, beside item other → test item = test' other)
    (values : ∀ item other, beside item other → value item = value' other) :
    (items.find? test).bind value = (others.find? test').bind value' := by
  -- Both searches pass over a pair, or both end at it.
  induction lists with
  | nil => rfl
  | @cons item other rest rest' held _ ih =>
    rw [List.find?_cons, List.find?_cons, tests item other held]
    cases test' other with
    | true => exact values item other held
    | false => exact ih

/-- The first match of a list has the same value as the first match of another one that has the same
items at other places, if matches do not overtake each other. -/
theorem find?_map_of_place {α γ : Type} {items others : List α} {test test' : α → Bool}
    {value : α → γ} (place : Fin items.length ≃ Fin others.length)
    (tests : ∀ i, test' (others.get (place i)) = test (items.get i))
    (values : ∀ i, value (others.get (place i)) = value (items.get i))
    (order : ∀ i j, i < j → test (items.get i) = true → test (items.get j) = true →
      place i < place j) :
    (items.find? test).map value = (others.find? test').map value := by
  cases found : items.find? test with
  | none =>
    rw [Option.map_none, eq_comm, Option.map_eq_none_iff]
    -- Whatever stands in the other list stands in this one, too, and is no match.
    refine List.find?_eq_none.mpr fun other listed => ?_
    obtain ⟨i, rfl⟩ := List.get_of_mem listed
    have same := tests (place.symm i)
    rw [place.apply_symm_apply] at same
    rw [same]
    exact List.find?_eq_none.mp found _ (List.get_mem ..)
  | some item =>
    obtain ⟨hit, at_, inside, rfl, missed⟩ := List.find?_eq_some_iff_getElem.mp found
    let first : Fin items.length := ⟨at_, inside⟩
    have there : others.find? test' = some (others.get (place first)) := by
      refine List.find?_eq_some_iff_getElem.mpr
        ⟨(tests first).trans hit, place first, (place first).2, rfl, fun j before => ?_⟩
      -- A match before that one would come from a match behind the first.
      obtain ⟨i, moved⟩ := place.surjective ⟨j, before.trans (place first).2⟩
      have same := tests i
      rw [moved] at same
      rw [Bool.not_eq_true', ← Bool.not_eq_true]
      intro matched
      have also : test (items.get i) = true := same.symm.trans matched
      -- It would stand before the first match, be that match, or have been overtaken by it.
      rcases lt_trichotomy i first with earlier | rfl | later
      · have miss := missed i earlier
        rw [Bool.not_eq_true', ← Bool.not_eq_true] at miss
        exact miss also
      · exact absurd before (by rw [moved]; exact Nat.lt_irrefl j)
      · have behind := order first i later hit also
        rw [moved] at behind
        exact absurd before (Nat.lt_asymm behind)
    rw [there]
    exact congrArg some (values first).symm

/-- What a step reads under another name than its settings does not depend on them. -/
theorem Json.Members.get?_of_ne {key name : String} (other : name ≠ key) (before after : Members)
    (value value' : Json) :
    get? (before ++ (key, value) :: after) name = get? (before ++ (key, value') :: after) name := by
  simp [get?, List.find?_append, Ne.symm other]

/-- Settings are read alike as an object, if there are any. -/
theorem Document.settingsShape_config {same : Json.Members → Json.Members → Prop}
    {node other : Node} (settings : OutcomesAlike same node.settings other.settings) :
    OutcomesAlike same (settingsShape [] node.config) (settingsShape [] other.config) := by
  -- What is no object is refused for that, whatever else it is.
  have refused {node : Node} {fault : DocumentFault} (none : node.settings = .error fault) :
      settingsShape [] node.config = .error [⟨[], .notObject⟩] := by
    cases held : node.config with
    | obj members => simp [Node.settings, held] at none
    | _ => rfl
  generalize first : node.settings = found at settings
  generalize second : other.settings = found' at settings
  cases settings with
  | ok same =>
    rw [settingsShape_eq_ok.mpr ⟨rfl, Node.settings_eq_ok.mp first⟩,
      settingsShape_eq_ok.mpr ⟨rfl, Node.settings_eq_ok.mp second⟩]
    exact .ok same
  | error fault =>
    rw [refused first, refused second]
    exact .error _

/-- Conditions are read alike as settings, if their keys are texts. -/
theorem Document.settingsShape_obj {same : Json.Members → Json.Members → Prop}
    {members members' : Json.Members} (oddSteps : List PathStep) (similar : same members members') :
    OutcomesAlike same (settingsShape oddSteps (.obj members))
      (settingsShape oddSteps (.obj members')) := by
  unfold settingsShape
  -- Keys that are no texts make both fail alike, whatever the members are.
  split
  · rw [Shape.object_obj, Shape.object_obj]
    exact .ok similar
  · exact .error _

/-- Steps are read alike from the same values, if their settings are. -/
theorem LogicStep.ofFields_alike {same : Json.Members → Json.Members → Prop}
    {settings settings' : Shape Json Json.Members} {get get' : String → Option Json}
    (others : ∀ name, name ≠ "config" → get name = get' name)
    (config : OutcomesAlike same (Shape.withDefault settings [] (Shape.field get "config"))
      (Shape.withDefault settings' [] (Shape.field get' "config"))) :
    OutcomesAlike (LogicStep.Alike same) (ofFields settings get) (ofFields settings' get') := by
  have field (name : String) (other : name ≠ "config") :
      Shape.field get name = Shape.field get' name := by
    rw [Shape.field, Shape.field, others name other]
  have either (name short : String) (long : name ≠ "config") (other : short ≠ "config") :
      Shape.either get name short = Shape.either get' name short := by
    rw [Shape.either, Shape.either, others name long, others short other]
  unfold ofFields
  rw [field "id" (by decide), field "type" (by decide), field "label" (by decide),
    field "next" (by decide), either "nextTrue" "next_true" (by decide) (by decide),
    either "nextFalse" "next_false" (by decide) (by decide)]
  -- The parts are handed over one after the other, and all but one are the same.
  refine Checked.part_alike .refl <| Checked.part_alike .refl <| Checked.part_alike .refl <|
    Checked.part_alike config <| Checked.part_alike .refl <| Checked.part_alike .refl <|
    Checked.part_alike .refl <| .ok ?_
  rintro id _ rfl type _ rfl label _ rfl members members' same next _ rfl nextTrue _ rfl
    nextFalse _ rfl
  exact ⟨rfl, rfl, rfl, same, rfl, rfl, rfl⟩

namespace Document

variable {first second : Document} {same : Json.Members → Json.Members → Prop}
  (nodes : List.Forall₂ (Node.Alike same) first.nodes second.nodes)

section

include nodes

/-- A port is found in the one document as in the other. -/
theorem port?_alike (node port : Json) : first.port? node port = second.port? node port := by
  -- Nodes are found by their ids and ports in their lists, and both are the same.
  refine find?_bind_of_forall₂ nodes (fun item other alike => ?_) fun item other alike => ?_
  · rw [alike.id]
  · rw [Node.port?, Node.port?, alike.ports]

/-- An edge leaves through the same group in the one document as in the other, whatever its id. -/
theorem group?_alike {edge other : Edge} (named : other.unnamed = edge.unnamed) :
    second.group? other = first.group? edge := by
  -- The group of an edge is that of the port it leaves, and the port is found alike.
  obtain ⟨source, sourcePort, -⟩ := Edge.ends_of_unnamed named
  rw [group?, group?, source, sourcePort, port?_alike nodes]

end

section

variable (edges : first.Rearranged second)
include edges

/-- The edges of rearranged documents lead to the same targets. -/
theorem Rearranged.targets (target : Json) :
    target ∈ first.edges.map Edge.target ↔ target ∈ second.edges.map Edge.target := by
  obtain ⟨place, moved, -⟩ := edges
  -- Each edge has moved to a place where its target is the same.
  constructor
  · intro aimed
    obtain ⟨edge, drawn, rfl⟩ := List.mem_map.mp aimed
    obtain ⟨i, rfl⟩ := List.get_of_mem drawn
    exact List.mem_map.mpr ⟨_, List.get_mem .., (Edge.ends_of_unnamed (moved i)).2.2⟩
  · intro aimed
    obtain ⟨edge, drawn, rfl⟩ := List.mem_map.mp aimed
    obtain ⟨i, rfl⟩ := List.get_of_mem drawn
    have same := moved (place.symm i)
    rw [place.apply_symm_apply] at same
    exact List.mem_map.mpr ⟨_, List.get_mem .., (Edge.ends_of_unnamed same).2.2.symm⟩

include nodes

/-- Alike nodes have the same first targets. -/
theorem Rearranged.firstTarget?_alike {node other : Node} (alike : node.Alike same other)
    (group : PortGroup) : first.firstTarget? node group = second.firstTarget? other group := by
  obtain ⟨place, moved, order⟩ := edges
  rw [firstTarget?, firstTarget?, outgoing, outgoing, List.find?_filter, List.find?_filter]
  -- The first edge of a group is first in its new place, too, since edges of one group keep their
  -- order.
  refine find?_map_of_place place (fun i => ?_) (fun i => (Edge.ends_of_unnamed (moved i)).2.2)
    fun i j before hit matched => ?_
  · rw [(Edge.ends_of_unnamed (moved i)).1, group?_alike nodes (moved i), alike.id]
  · -- Both edges leave the node, and both do so through the group.
    simp only [beq_iff_eq, decide_eq_true_eq] at hit matched
    refine order i j group before ?_ hit.2 matched.2
    rw [Json.isSame, beq_iff_eq, Json.core_eq_of_equals hit.1, Json.core_eq_of_equals matched.1]

/-- The roots of the one document are alike to those of the other. -/
theorem Rearranged.roots_alike :
    OutcomesAlike (List.Forall₂ (Node.Alike same)) first.roots second.roots := by
  have ids : first.nodes.map Node.id = second.nodes.map Node.id := by
    rw [← List.forall₂_eq_eq_eq, List.forall₂_map_left_iff, List.forall₂_map_right_iff]
    exact nodes.imp fun _ _ alike => alike.id
  -- Only the targets of the edges count, and not their order.
  have anyTarget (test : Json → Bool) : first.edges.any (test ∘ Edge.target) =
      second.edges.any (test ∘ Edge.target) := by
    rw [← List.any_map, ← List.any_map, Bool.eq_iff_iff, List.any_eq_true, List.any_eq_true]
    simp only [edges.targets]
  have allTargets (test : Json → Bool) : first.edges.all (test ∘ Edge.target) =
      second.edges.all (test ∘ Edge.target) := by
    rw [← List.all_map, ← List.all_map, Bool.eq_iff_iff, List.all_eq_true, List.all_eq_true]
    simp only [edges.targets]
  have allIds (test : Json → Bool) : first.nodes.all (test ∘ Node.id) =
      second.nodes.all (test ∘ Node.id) := by
    rw [← List.all_map, ids, List.all_map]
  have unaimed : List.Forall₂ (Node.Alike same) first.unaimed second.unaimed := by
    refine List.rel_filter (fun node other alike => ?_) nodes
    show (!first.edges.any fun edge => edge.target.isSame node.id) = true ↔
      (!second.edges.any fun edge => edge.target.isSame other.id) = true
    rw [alike.id]
    exact Bool.eq_iff_iff.mp (congrArg not (anyTarget fun target => target.isSame other.id))
  unfold roots
  have fixedTargets := allTargets Json.isFixed
  have fixedIds := allIds Json.isFixed
  simp only [Function.comp_def] at fixedTargets fixedIds
  rw [fixedTargets, fixedIds]
  -- Both fail if an id or a target is no key, and otherwise the unaimed nodes stand beside each
  -- other.
  split
  · exact .ok unaimed
  · exact .error _

/-- The steps of alike nodes are alike. -/
theorem Rearranged.compileNode_alike {node other : Node} (alike : node.Alike same other) :
    OutcomesAlike (LogicStep.Alike same) (first.compileNode node) (second.compileNode other) := by
  have targets := edges.firstTarget?_alike nodes alike
  have settings := alike.settings
  have branch : other.isBranch = node.isBranch := by rw [Node.isBranch, Node.isBranch, alike.type]
  rw [compileNode, compileNode, stepLinks, stepLinks, alike.id, alike.type, alike.label]
  rw [Node.stepSettings, Node.stepSettings] at settings
  simp only [targets, branch] at settings ⊢
  -- A branch without settings is refused before its step is read, and any other node after.
  cases branches : node.isBranch with
  | true =>
    simp only [branches, if_true, alike.keyed branches, bind_assoc] at settings ⊢
    refine settings.of_map.bind fun condition condition' similar => ?_
    refine .mapError _ (LogicStep.ofFields_alike (fun name apart => ?_) ?_)
    · exact Json.Members.get?_of_ne apart [_, _, _] [_, _] _ _
    · exact Checked.within_alike _ (settingsShape_obj _ similar)
  | false =>
    simp only [branches, Bool.false_eq_true, if_false] at settings ⊢
    refine .mapError _ (LogicStep.ofFields_alike (fun name apart => ?_) ?_)
    · exact Json.Members.get?_of_ne apart [_, _, _] [_] _ _
    · exact Checked.within_alike _ (settingsShape_config settings)

/-- Documents that agree on what logic depends on come to logic that is alike, or to the same
fault. -/
theorem Rearranged.outcomes_alike :
    OutcomesAlike (Logic.Alike same) first.compile second.compile := by
  unfold compile
  -- Steps are made node by node, and the start is the first root, if there is one.
  refine (OutcomesAlike.mapM nodes fun _ _ alike => edges.compileNode_alike nodes alike).bind
    fun steps steps' beside => ?_
  refine (edges.roots_alike nodes).bind fun roots roots' rooted => .ok ⟨?_, beside⟩
  cases rooted with
  | nil => rfl
  | cons alike _ => exact congrArg Json.text? alike.id

end

/-- The same edges in the same order are rearranged in no way. -/
theorem Rearranged.of_edges_eq {first second : Document} (same : first.edges = second.edges) :
    first.Rearranged second := by
  -- Each edge stays in its place.
  refine ⟨finCongr (congrArg List.length same), fun i => ?_, fun _ _ _ before _ _ _ => before⟩
  simp [same]

end Document

/-- A node without its place and its size. -/
def Node.bare (node : Node) : Node := { node with position := [], width := .null, height := .null }

/-- Nodes that differ in place and size at most are alike to logic. -/
theorem Node.Alike.of_bare {first second : Node} (same : first.bare = second.bare) :
    Node.Alike Eq first second := by
  -- A part that does not look at places and sizes is the same in both.
  have part {α : Type} (part : Node → α) (blind : ∀ node : Node, part node.bare = part node) :
      part first = part second := by rw [← blind first, same, blind]
  refine ⟨part Node.id fun _ => rfl, part Node.type fun _ => rfl, part Node.ports fun _ => rfl,
    ?_, ?_, fun _ => part Node.oddSteps fun _ => rfl⟩
  · rw [part Node.label fun _ => rfl]
  · rw [part Node.stepSettings fun _ => rfl]
    exact .refl

/-- Steps that are alike in the strictest sense are equal. -/
theorem LogicStep.Alike.eq {first second : LogicStep} (alike : first.Alike Eq second) :
    first = second := by
  -- Alike by equality in every field is equal.
  cases first
  cases second
  obtain ⟨rfl, rfl, rfl, rfl, rfl, rfl, rfl⟩ := alike
  rfl

/-- Logic that is alike in the strictest sense is equal. -/
theorem Logic.Alike.eq {first second : Logic} (alike : first.Alike Eq second) : first = second := by
  -- Steps that are alike with equal settings are equal.
  have steps : first.steps = second.steps :=
    List.forall₂_eq_eq_eq ▸ alike.steps.imp fun _ _ each => each.eq
  cases first
  cases second
  rw [Logic.mk.injEq]
  exact ⟨alike.start, steps⟩

namespace Document

/-- Documents whose nodes differ in place and size at most come to the same logic, or to the same
fault, if their edges are the same. -/
theorem compile_eq_of_bare {first second : Document}
    (nodes : List.Forall₂ (fun node other => node.bare = other.bare) first.nodes second.nodes)
    (edges : first.edges = second.edges) : first.compile = second.compile := by
  -- Equal bare nodes are alike in the sense of equality.
  have alike := (Rearranged.of_edges_eq edges).outcomes_alike
    (nodes.imp fun _ _ same => Node.Alike.of_bare same)
  exact (alike.mono fun _ _ each => each.eq).eq

/-- The logic of a document depends on nothing but the ids, the types, the ports and the labels of
its nodes in their order, on conditions and settings, and on the edges that leave each node through
each group of its ports, in their order. Documents that agree on these come to the same logic, or to
the same fault. If conditions and settings are only equal as values, so is what the steps hold of
them. -/
theorem compile_alike {first second : Document} (edges : first.Rearranged second) :
    (List.Forall₂ (Node.Alike Eq) first.nodes second.nodes → first.compile = second.compile) ∧
      (List.Forall₂ (Node.Alike Json.Members.Same) first.nodes second.nodes →
        OutcomesAlike (Logic.Alike Json.Members.Same) first.compile second.compile) := by
  -- The two senses of alike are one lemma, and the first one gives equality.
  refine ⟨fun nodes => OutcomesAlike.eq ?_, fun nodes => edges.outcomes_alike nodes⟩
  exact (edges.outcomes_alike nodes).mono fun _ _ alike => alike.eq

/-- The question with a second way to the answer yes, drawn in another order and at other places.
The question has a note beside its condition, given in the order asked for. -/
def redrawn (condition : Json.Members) : Document where
  nodes := [
    { Node.fresh .default (.str "a") (.str "start") .null 7 7 with text := .str "Here" },
    { Node.fresh .default (.str "b") (.str "if") .null 7 7 with
      config := .obj [("note", .str "later"), (conditionKey, .obj condition)] },
    { Node.fresh .default (.str "c") (.str "step") .null 7 7 with style := [] },
    { Node.fresh .default (.str "d") (.str "step") .null 7 7 with width := .int 9 }]
  edges := [⟨.str "p", .str "d", .str "out", .str "b", .str "in"⟩,
    ⟨.str "q", .str "b", .str "falseOut", .str "d", .str "in"⟩,
    ⟨.str "r", .str "b", .str "trueOut", .str "c", .str "in"⟩,
    ⟨.str "s", .str "b", .str "trueOut", .str "d", .str "in"⟩,
    ⟨.str "t", .str "a", .str "out", .str "b", .str "in"⟩]
  viewport := []

/-- Drawn again, the question comes to the same logic, and to logic of the same value if its
condition is told in another order. -/
theorem redrawn_alike :
    let condition : Json.Members :=
      [("propertyId", .str "age"), ("operator", .str "gt"), ("value", .int 18)]
    overdrawn.Rearranged (redrawn condition) ∧ overdrawn.compile = (redrawn condition).compile ∧
      OutcomesAlike (Logic.Alike Json.Members.Same) overdrawn.compile
        (redrawn condition.reverse).compile := by
  intro condition
  -- The condition has no part in the edges.
  have rearranged : overdrawn.Rearranged (redrawn []) := by
    refine ⟨(Equiv.swap (0 : Fin 5) 4).trans (Equiv.swap 1 2), by decide, fun i j group => ?_⟩
    cases group <;> revert i j <;> decide
  have edges (told : Json.Members) : overdrawn.Rearranged (redrawn told) := rearranged
  have nodes {same : Json.Members → Json.Members → Prop} (none : same [] [])
      {told : Json.Members} (alike : same condition told) :
      List.Forall₂ (Node.Alike same) overdrawn.nodes (redrawn told).nodes :=
    .cons ⟨rfl, rfl, rfl, rfl, .ok none, fun _ => rfl⟩ <|
      .cons ⟨rfl, rfl, rfl, rfl, .ok alike, fun _ => rfl⟩ <|
      .cons ⟨rfl, rfl, rfl, rfl, .ok none, fun _ => rfl⟩ <|
      .cons ⟨rfl, rfl, rfl, rfl, .ok none, fun _ => rfl⟩ .nil
  -- The members of the condition stand in the other order, and so mean the same.
  have sorted : condition.Same condition.reverse := by
    simp [condition, Json.Members.Same, Json.isSame, Json.core, Json.coreMembers, List.mergeSort,
      List.MergeSort.Internal.splitInTwo]
  have empty : Json.Members.Same [] [] := by
    rw [Json.Members.Same, Json.isSame, beq_iff_eq]
  exact ⟨edges _, (compile_alike (edges _)).1 (nodes rfl rfl),
    (compile_alike (edges _)).2 (nodes empty sorted)⟩

end Document

end Flowchart
