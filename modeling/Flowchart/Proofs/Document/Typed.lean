import Flowchart.Proofs.Document.Steps

/-! Documents whose parts are of the kinds they are declared as: ids, types and labels are texts,
and settings are objects. Operations that are handed such parts build such documents. -/

namespace Flowchart

/-- Every part of a node that its step is made of is of the kind it is declared as. -/
structure Node.Typed (node : Node) : Prop where
  named : ∃ id, node.id = .str id
  typed : ∃ type, node.type = .str type
  /-- A label counts as none, or it is a text. -/
  labelled : node.label.isTruthy = true → ∃ label, node.label = .str label
  configured : ∃ settings, node.config = .obj settings
  /-- All keys of the condition of a branch are texts. -/
  keyed : node.isBranch = true → node.oddSteps = []

/-- An operation that is handed texts for types and labels, and texts for the keys of conditions. -/
def Operation.IsTyped : Operation → Prop
  | .addNode type label _ => (∃ text, type = .str text) ∧ ∃ text, label = .ofText? text
  | .updateNode _ _ label => ∃ text, label = .ofText? text
  | .setCondition _ condition _ => ∀ pairs, condition.dictionaryPairs = .ok pairs →
      ∀ pair ∈ pairs, ∃ key, pair.1 = .str key
  | .replace _ => False
  | _ => True

/-- Nothing is brought in by an operation on typed parts. -/
theorem Operation.IsTyped.isEdit {operation : Operation} (typed : operation.IsTyped) :
    operation.IsEdit := by
  -- Only the replacement of the whole document is no edit, and it is excluded.
  cases operation with
  | replace document => exact typed.elim
  | _ => trivial

namespace Node

/-- The text of a fresh node of a type is a text. -/
theorem fresh_text (settings : Settings) (id : Json) (type : String) (label : Option String)
    (x y : Float) :
    ∃ text, (fresh settings id (.str type) (.ofText? label) x y).text = .str text := by
  -- The label is shown, or `IF` at a branch, or else the type.
  simp only [fresh]
  split
  · cases label with
    | none => contradiction
    | some label => exact ⟨label, rfl⟩
  · split
    · exact ⟨_, rfl⟩
    · exact ⟨type, rfl⟩

/-- The label of a fresh node of a type is a text. -/
theorem fresh_label (settings : Settings) (id : Json) (type : String) (label : Option String)
    (x y : Float) :
    ∃ text, (fresh settings id (.str type) (.ofText? label) x y).label = .str text := by
  -- The label is the text, except that a branch has none.
  obtain ⟨text, worded⟩ := fresh_text settings id type label x y
  by_cases branches : Json.str type = branchType
  · exact ⟨"", if_pos branches⟩
  · exact ⟨text, (if_neg branches).trans worded⟩

/-- A fresh node is typed. -/
theorem fresh_typed (settings : Settings) (id type : String) (label : Option String) (x y : Float) :
    (fresh settings (.str id) (.str type) (.ofText? label) x y).Typed where
  -- Texts are given for all that has to be a text, and the settings start empty.
  named := ⟨id, rfl⟩
  typed := ⟨type, rfl⟩
  labelled _ := fresh_label settings (.str id) type label x y
  configured := ⟨[], rfl⟩
  keyed _ := rfl

/-- A node stays typed under another label. -/
theorem Typed.relabel {node : Node} (typed : node.Typed) (label : Option String) :
    (node.relabel (.ofText? label)).Typed := by
  -- A label that is given is a text.
  cases label with
  | none => exact typed
  | some label => exact { typed with labelled := fun _ => ⟨label, rfl⟩ }

/-- A node stays typed when settings are merged into it. -/
theorem Typed.update {node changed : Node} (typed : node.Typed) {patch : Json}
    (label : Option String) (updated : node.update patch (.ofText? label) = .ok changed) :
    changed.Typed := by
  -- A condition among the new settings has texts for its keys, and otherwise the old one stays.
  obtain ⟨settings, members, -, -, rfl⟩ := Node.update_eq_ok.mp updated
  refine Typed.relabel ?_ label
  refine { typed with configured := ⟨_, rfl⟩, keyed := fun branches => ?_ }
  simp only [typed.keyed branches, ite_self]

/-- A node stays typed under a condition whose keys are texts. -/
theorem Typed.withCondition {node changed : Node} (typed : node.Typed) {condition text : Json}
    (keyed : ∀ pairs, condition.dictionaryPairs = .ok pairs →
      ∀ pair ∈ pairs, ∃ key, pair.1 = .str key)
    (stored : node.withCondition condition text = .ok changed) : changed.Typed := by
  -- The settings are an object again, and the condition has only texts for keys.
  obtain ⟨settings, pairs, -, read, rfl⟩ := Node.withCondition_eq_ok.mp stored
  exact { typed with
    configured := ⟨_, rfl⟩
    keyed := fun _ => Json.oddSteps_eq_nil (keyed pairs read) }

end Node

/-- A document of typed nodes. -/
def Document.Typed (document : Document) : Prop := ∀ node ∈ document.nodes, node.Typed

/-- A document of parts that are of the kinds they are declared as: its nodes are typed, and its
edges lead to texts, whether nodes have them for ids or not. -/
structure Document.Declared (document : Document) : Prop where
  typed : document.Typed
  targets : ∀ edge ∈ document.edges, ∃ target, edge.target = .str target

namespace Document

/-- Nodes and targets of edges can be looked for by their ids as keys: no id and no target is a list
or an object. -/
structure Keyed (document : Document) : Prop where
  targets : ∀ edge ∈ document.edges, edge.target.isFixed = true
  ids : ∀ node ∈ document.nodes, node.id.isFixed = true

variable {document : Document}

/-- Where ids and targets can be keys, the roots are found. -/
theorem Keyed.roots_eq (keyed : document.Keyed) : document.roots = .ok document.unaimed := by
  -- With keys everywhere the set of targets can be formed.
  rw [roots, List.all_eq_true.mpr keyed.targets, List.all_eq_true.mpr keyed.ids]
  rfl

/-- Texts can be keys. -/
theorem Declared.keyed (declared : document.Declared) : document.Keyed where
  -- Texts can be keys.
  targets edge listed := by
    obtain ⟨text, same⟩ := declared.targets edge listed
    rw [same]
    rfl
  ids node listed := by
    obtain ⟨text, same⟩ := (declared.typed node listed).named
    rw [same]
    rfl

end Document

namespace Workspace

/-- Every operation on typed parts keeps a document typed. -/
theorem typed_step {space next : Workspace} {operation : Operation} (given : operation.IsTyped)
    (step : space.Step operation next) (typed : space.document.Typed) : next.document.Typed := by
  -- Only the three ways to bring a node matter, and each is given texts where texts are asked for.
  refine step.nodes_forall ?_ ?_ ?_ typed
  · rintro _ _ position x y rfl
    obtain ⟨⟨type, rfl⟩, label, rfl⟩ := given
    exact Node.fresh_typed _ _ type label x y
  · rintro id patch _ old changed rfl merged before
    obtain ⟨label, rfl⟩ := given
    exact before.update label merged
  · rintro id condition text old changed rfl stored before
    exact before.withCondition given stored

/-- Operations on typed parts that start with an empty document build a typed one. -/
theorem run_typed {operations : List Operation}
    (each : ∀ operation ∈ operations, operation.IsTyped) (settings : Settings)
    (supply : Supply) : ((start settings supply).run operations).document.Typed := by
  -- The empty document is typed, and each operation keeps it so.
  have empty : (start settings supply).document.Typed := by
    simp [start, Document.Typed, Document.empty]
  exact run_keeps (fun _ => Operation.IsTyped.isEdit) typed_step each empty

end Workspace

end Flowchart
