import Flowchart.Proofs.Document.InPlace
import Flowchart.Proofs.Json.Members

/-! Changes are made as a whole or not at all. A change that fails or is refused leaves no trace,
and one that is carried out touches nothing but what it is about. -/

namespace Flowchart

/-- What is changed of a node: its settings under some keys, its label and its text. -/
structure Node.Retouched (touched : String → Bool) (old changed : Node) : Prop where
  rest : changed = { old with
    config := changed.config, oddSteps := changed.oddSteps, label := changed.label
    text := changed.text }
  settings : ∃ before after : Json.Members,
    old.config = .obj before ∧ changed.config = .obj after ∧
    ∀ key, touched key = false → after.get? key = before.get? key
  /-- The keys of a condition go with the condition. -/
  keyed : touched conditionKey = false → changed.oddSteps = old.oddSteps

namespace Node

variable {old changed : Node}

/-- Merging settings leaves those alone that are not in the patch. -/
theorem update_retouched {patch : Json.Members} {label : Json}
    (merged : old.update (.obj patch) label = .ok changed) :
    Retouched patch.contains old changed := by
  obtain ⟨settings, members, held, given, rfl⟩ := update_eq_ok.mp merged
  cases given
  have kept (key : String) (absent : patch.contains key = false) :
      (settings.merge patch).get? key = settings.get? key :=
    Json.Members.get?_merge_of_not_contains absent
  -- Without a label the relabelled node is the merged one.
  by_cases unnamed : label = .null
  · subst unnamed
    exact ⟨rfl, ⟨settings, _, held, rfl, kept⟩, fun absent => by simp [relabel, absent]⟩
  · rw [relabel_of_ne_null unnamed]
    exact ⟨rfl, ⟨settings, _, held, rfl, kept⟩, fun absent => by simp [absent]⟩

/-- Storing a condition leaves all other settings alone. -/
theorem withCondition_retouched {condition text : Json}
    (stored : old.withCondition condition text = .ok changed) :
    Retouched (· == conditionKey) old changed := by
  obtain ⟨settings, pairs, held, -, rfl⟩ := withCondition_eq_ok.mp stored
  -- One key is set, and what stands under the others stays.
  have kept (key : String) (apart : (key == conditionKey) = false) (value : Json) :
      (settings.set conditionKey value).get? key = settings.get? key :=
    Json.Members.get?_set_of_ne (Ne.symm (beq_eq_false_iff_ne.mp apart)) value
  exact ⟨rfl, ⟨settings, _, held, rfl, fun key apart => kept key apart _⟩, by simp⟩

end Node

/-- What is changed of a document: one node, the first one with an id, in its place. -/
def Document.Retouched (id : Json) (touched : String → Bool) (before after : Document)
    (changed : Node) : Prop :=
  ∃ front old back, (∀ node ∈ front, node.id.equals id = false) ∧ old.id.equals id = true ∧
    Node.Retouched touched old changed ∧
    before.nodes = front ++ old :: back ∧ after = { before with nodes := front ++ changed :: back }

/-- A change of a node retouches the document if it retouches the node. -/
theorem Document.modify_retouched {document next : Document} {id : Json} {changed : Node}
    {touched : String → Bool} {change : Node → Except DocumentFault Node}
    (made : document.modify id change = .ok (next, changed))
    (kept : ∀ old, change old = .ok changed → Node.Retouched touched old changed) :
    document.Retouched id touched next changed := by
  -- The node that is found is the first of its id, and only it is replaced.
  obtain ⟨old, found, outcome, rfl⟩ := modify_eq_ok.mp made
  obtain ⟨named, front, back, split, apart⟩ := split_of_find? found
  refine ⟨front, old, back, apart, named, kept old outcome, split, ?_⟩
  rw [split, replaceFirst_append apart named]

/-- The changes that are made as a whole. -/
inductive Change where
  | addNode (type label position : Json)
  | updateNode (node patch label : Json)
  | setCondition (node condition text : Json)
  | setType (node type : Json)
  | connect (source sourcePort target targetPort : Json)
  | save (form : Form)

namespace Change

/-- A change made in place, write by write. -/
def inPlace : Change → Procedure Outcome
  | .addNode type label position => do
    return .added (← Procedure.addNode type label position)
  | .updateNode node patch label => do
    return .changed (← Procedure.updateNode node patch label)
  | .setCondition node condition text => do
    return .changed (← Procedure.setCondition node condition text)
  | .setType node type => do
    Procedure.setType node type
    return .done
  | .connect source sourcePort target targetPort => do
    match ← Procedure.connect source sourcePort target targetPort with
    | some edge => return .connected edge
    | none => return .refused
  | .save form => do
    return if ← Procedure.saveForm form then .done else .refused

/-- A change made at once. -/
def perform (space : Workspace) : Change → Except DocumentFault (Workspace × Outcome)
  | .addNode type label position => space.perform (.addNode type label position)
  | .updateNode node patch label => space.perform (.updateNode node patch label)
  | .setCondition node condition text => space.perform (.setCondition node condition text)
  | .setType node type => space.perform (.setType node type)
  | .connect source sourcePort target targetPort =>
    space.perform (.connect source sourcePort target targetPort)
  | .save form => do
    let (document, saved) ← form.save space.document
    return (space.withDocument document, if saved then .done else .refused)

/-- What a change may do that comes to an end. A connection that the rules forbid and a condition
that is not complete are refused, and nothing is done. -/
inductive Effect (space : Workspace) : Change → Outcome → Workspace → Prop where
  | added {type label position : Json} {id : String} (x y : Float) (randoms : List Float)
    (drawn : .str id = space.nextId) :
    Effect space (.addNode type label position) (.added id) ((space.drawn randoms).withDocument
      (space.document.addNode (.fresh space.settings space.nextId type label x y)))
  | updated {id label : Json} {patch : Json.Members} {document : Document} {changed : Node}
    (within : space.document.Retouched id patch.contains document changed) :
    Effect space (.updateNode id (.obj patch) label) (.changed changed)
      (space.withDocument document)
  | conditioned {id condition text : Json} {document : Document} {changed : Node}
    (within : space.document.Retouched id (· == conditionKey) document changed) :
    Effect space (.setCondition id condition text) (.changed changed) (space.withDocument document)
  | connected {source sourcePort target targetPort : Json} {edge : Edge}
    (made : edge = ⟨space.nextId, source, sourcePort, target, targetPort⟩) :
    Effect space (.connect source sourcePort target targetPort) (.connected edge)
      ((space.drawn space.supply.randoms).withDocument
        { space.document with edges := space.document.edges ++ [edge] })
  | forbidden {source sourcePort target targetPort : Json} :
    Effect space (.connect source sourcePort target targetPort) .refused space
  | conditionSaved {form : ConditionForm} {document : Document} {changed : Node}
    (within : space.document.Retouched form.node (· == conditionKey) document changed) :
    Effect space (.save (.condition form)) .done (space.withDocument document)
  | incomplete {form : ConditionForm} : Effect space (.save (.condition form)) .refused space
  | stepSaved {form : StepForm} {document : Document} {changed : Node}
    (within : space.document.Retouched form.node form.values.contains document changed) :
    Effect space (.save (.step form)) .done (space.withDocument document)

/-- Making a change in place comes to making it at once. -/
theorem inPlace_eq (change : Change) :
    change.inPlace = Procedure.atOnce fun space => change.perform space := by
  refine Procedure.ext fun space => ?_
  rw [Procedure.runOn_atOnce]
  -- Each change made write by write is equal to its one step form, which ends alike in both
  -- outcomes.
  cases change with
  | addNode type label position =>
    rw [inPlace, Procedure.addNode_eq, Procedure.runOn_bind, Procedure.runOn_atOnce, perform,
      Workspace.perform]
    cases space.addNode type label position <;> rfl
  | updateNode node patch label =>
    rw [inPlace, Procedure.updateNode_eq, Procedure.runOn_bind, Procedure.runOn_atOnceIn, perform,
      Workspace.perform]
    cases space.document.updateNode node patch label <;> rfl
  | setCondition node condition text =>
    rw [inPlace, Procedure.setCondition_eq, Procedure.runOn_bind, Procedure.runOn_atOnceIn,
      perform, Workspace.perform]
    cases space.document.setCondition node condition text <;> rfl
  | setType node type =>
    rw [inPlace, Procedure.setType_eq, Procedure.runOn_bind, Procedure.runOn_atOnceIn, perform,
      Workspace.perform]
    cases space.document.setType node type <;> rfl
  | connect source sourcePort target targetPort =>
    rw [inPlace, Procedure.connect_eq, Procedure.runOn_bind, Procedure.runOn_atOnce, perform,
      Workspace.perform]
    -- A connection that is refused is no failure; it leaves the workspace as it is.
    cases space.connect source sourcePort target targetPort with
    | mk next edge => cases edge <;> rfl
  | save form =>
    rw [inPlace, Procedure.saveForm_eq, Procedure.runOn_bind, Procedure.runOn_atOnceIn, perform]
    cases form.save space.document <;> rfl

/-- A change that comes to an end does what it is about, and nothing else. -/
theorem effect_of_perform {space next : Workspace} {change : Change} {outcome : Outcome}
    (made : change.perform space = .ok (next, outcome)) : Effect space change outcome next := by
  -- Of a change that was made, the outcome tells which effect it has had.
  cases change with
  | addNode type label position =>
    obtain ⟨⟨added, id⟩, placed, same⟩ := bind_eq_ok.mp made
    obtain ⟨x, y, randoms, drawn, rfl⟩ := Workspace.addNode_eq_ok placed
    cases same
    exact .added x y randoms drawn
  | updateNode node patch label =>
    obtain ⟨⟨document, changed⟩, updated, same⟩ := bind_eq_ok.mp made
    cases same
    obtain ⟨old, -, merged, -⟩ := Document.modify_eq_ok.mp updated
    -- Nothing but an object can have been merged.
    obtain ⟨-, members, -, rfl, -⟩ := Node.update_eq_ok.mp merged
    exact .updated (Document.modify_retouched updated fun old => Node.update_retouched)
  | setCondition node condition text =>
    obtain ⟨⟨document, changed⟩, stored, same⟩ := bind_eq_ok.mp made
    cases same
    exact .conditioned (Document.modify_retouched stored fun old => Node.withCondition_retouched)
  | setType node type =>
    obtain ⟨document, given, -⟩ := bind_eq_ok.mp made
    -- No type is ever set, so this change cannot have been made.
    rw [Document.setType] at given
    cases found : space.document.node? node <;> simp [found] at given
  | connect source sourcePort target targetPort =>
    -- An edge was made if the connection is allowed; otherwise the outcome says that it is
    -- forbidden.
    cases asked : space.document.connect space.settings.allowSelfLoops space.nextId source
        sourcePort target targetPort with
    | none =>
      simp only [perform, Workspace.perform, Workspace.connect_of_none asked] at made
      cases made
      exact .forbidden
    | some accepted =>
      obtain ⟨document, edge⟩ := accepted
      obtain ⟨drawn, rfl, -⟩ := Document.connect_eq_some.mp asked
      simp only [perform, Workspace.perform, Workspace.connect_of_some asked] at made
      cases made
      exact .connected drawn
  | save form =>
    obtain ⟨⟨document, saved⟩, stored, same⟩ := bind_eq_ok.mp made
    cases form with
    | condition form =>
      rw [Form.save, ConditionForm.save] at stored
      cases complete : form.condition? with
      | none =>
        simp only [complete] at stored
        cases stored
        cases same
        exact .incomplete
      | some condition =>
        simp only [complete] at stored
        -- The text is there before the node is written.
        obtain ⟨text, -, rest⟩ := bind_eq_ok.mp stored
        obtain ⟨⟨after, changed⟩, written, told⟩ := bind_eq_ok.mp rest
        cases told
        cases same
        exact .conditionSaved
          (Document.modify_retouched written fun old => Node.withCondition_retouched)
    | step form =>
      obtain ⟨⟨after, changed⟩, written, told⟩ := bind_eq_ok.mp stored
      cases told
      cases same
      exact .stepSaved (Document.modify_retouched written fun old => Node.update_retouched)

/-- Made in place, write by write, every change ends as it does when it is made at once. One that
fails leaves the workspace as it was, and so does one that is refused; any other does what it is
about, and nothing else. -/
theorem inPlace_atomic (space : Workspace) (change : Change) :
    (change.inPlace.runOn space).1 = (change.perform space).map Prod.snd ∧
      match change.inPlace.runOn space with
      | (.error _, left) => left = space
      | (.ok outcome, next) => Effect space change outcome next := by
  -- Done in place or at once, the outcome is the same, and a failure leaves the workspace as it
  -- was.
  rw [inPlace_eq, Procedure.runOn_atOnce]
  cases made : change.perform space with
  | error fault => exact ⟨rfl, rfl⟩
  | ok result => exact ⟨rfl, effect_of_perform made⟩

end Change

end Flowchart
