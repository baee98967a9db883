import Flowchart.Proofs.Editor.Offered

/-! Sessions in which properties keep their types. What type a property has is told by its id once and
for all. As long as every list of properties keeps to that, and every condition that is brought in
from outside does, an open condition form holds what it offers: the forms themselves store nothing
else. -/

namespace Flowchart

/-- The types of properties, by their ids. -/
abbrev Typing := String → PropertyType

/-- Every property that is found under an id has the type of the id. -/
def Property.Typed (typing : Typing) (properties : List Property) : Prop :=
  ∀ id property, Property.find? properties id = some property → property.type = typing id

/-- A value keeps to a typing: if it is a condition about a property, it suits the type of the
property. -/
def Json.KeepsTo (value : Json) (typing : Typing) : Prop :=
  ∀ (condition : Json.Members) (id : String), value = .obj condition →
    condition.getOrNull "propertyId" = .str id → (typing id).Suits condition

/-- Settings keep to a typing: their condition does. -/
def Json.Members.KeepTo (settings : Json.Members) (typing : Typing) : Prop :=
  ∀ member ∈ settings, member.1 = conditionKey → member.2.KeepsTo typing

/-- A node keeps to a typing: its settings do. -/
def Node.KeepsTo (node : Node) (typing : Typing) : Prop :=
  ∀ settings : Json.Members, node.config = .obj settings → settings.KeepTo typing

/-- A form for a condition keeps to a typing: its properties do, and it holds what it offers. -/
structure ConditionForm.KeepsTo (form : ConditionForm) (typing : Typing) : Prop where
  typed : Property.Typed typing form.properties
  sound : form.Sound form.node form.properties
  holds : form.HoldsOffered

/-- A form keeps to a typing. -/
def Form.KeepsTo (typing : Typing) : Form → Prop
  | .condition form => form.KeepsTo typing
  | .step form => form.values.KeepTo typing

/-- A change in a form brings in no condition that does not keep to a typing. -/
def FormChange.KeepsTo (typing : Typing) : FormChange → Prop
  | .enter _ values => values.KeepTo typing
  | .select key _ => key ≠ conditionKey
  | _ => True

/-- An operation brings in no condition that does not keep to a typing. -/
def Operation.KeepsTo (typing : Typing) : Operation → Prop
  | .updateNode _ patch _ => ∀ members : Json.Members, patch = .obj members → members.KeepTo typing
  | .setCondition _ condition _ => (∃ members, condition = .obj members) ∧ condition.KeepsTo typing
  | _ => True

/-- An action brings in no properties and no condition that do not keep to a typing. -/
def EditorAction.KeepsTo (typing : Typing) (action : EditorAction) : Prop :=
  (∀ source document, action.source? = some source → source.document = .ok document →
    ∀ node ∈ document.nodes, node.KeepsTo typing) ∧
  match action with
  | .setProperties properties => Property.Typed typing properties
  | .update _ patch _ => ∀ members : Json.Members, patch = .obj members → members.KeepTo typing
  | .changeForm _ change => change.KeepsTo typing
  | _ => True

/-- A session keeps to a typing: its properties, its nodes and its open forms do. -/
structure EditorSession.KeepsTo (session : EditorSession) (typing : Typing) : Prop where
  typed : Property.Typed typing session.editor.properties
  nodes : ∀ node ∈ session.editor.document.nodes, node.KeepsTo typing
  forms : ∀ (place : Nat) (form : Form), session.forms[place]? = some form → form.KeepsTo typing

section Nodes

variable {typing : Typing}

/-- What is merged into settings keeps to a typing with them. -/
theorem Json.Members.KeepTo.merge {settings patch : Json.Members} (old : settings.KeepTo typing)
    (new : patch.KeepTo typing) : (settings.merge patch).KeepTo typing := by
  -- What is seen after a merge was there before or comes from the patch.
  unfold KeepTo at *
  exact Json.Members.merge_forall old new

/-- The condition of a node is among its settings. -/
theorem Node.mem_of_condition? {node : Node} {condition : Json.Members}
    (stored : node.condition? = .ok (some condition)) :
    ∃ settings : Json.Members, node.config = .obj settings ∧
      (conditionKey, .obj condition) ∈ settings := by
  cases configured : node.config with
  | obj settings =>
    simp only [condition?, Node.settings, configured, Except.map, Except.ok.injEq] at stored
    refine ⟨settings, rfl, Json.Members.mem_of_get? ?_⟩
    -- Null is no condition, so there is something under the key.
    rw [Json.Members.getOrNull] at stored
    cases held : Json.Members.get? settings conditionKey with
    | none => simp [held, Json.members?] at stored
    | some value =>
      rw [held, Option.getD_some] at stored
      cases value <;> simp_all [Json.members?]
  | _ => simp [condition?, Node.settings, configured, Except.map] at stored

/-- The condition of a node that keeps to the typing of the properties fits them. -/
theorem Node.KeepsTo.fits {node : Node} (keeps : node.KeepsTo typing) {properties : List Property}
    (typed : Property.Typed typing properties) : node.Fits properties := by
  intro condition property stored about
  -- The property is found under the id that the condition names.
  obtain ⟨id, spelled, found⟩ := Option.bind_eq_some_iff.mp (isAbout_iff.mpr about)
  have named : condition.getOrNull "propertyId" = .str id := by
    cases held : condition.getOrNull "propertyId" <;> simp_all [Json.text?]
  obtain ⟨settings, configured, inside⟩ := Node.mem_of_condition? stored
  rw [typed id property found]
  exact keeps settings configured _ inside rfl condition id rfl named

/-- A fresh node has no condition. -/
theorem Node.fresh_keepsTo (settings : Settings) (id type label : Json) (x y : Float) :
    (Node.fresh settings id type label x y).KeepsTo typing := by
  -- A new node has no condition yet.
  intro members same
  cases same
  exact nofun

/-- A node keeps to a typing when settings are merged into it that do. -/
theorem Node.KeepsTo.update {node changed : Node} (keeps : node.KeepsTo typing)
    {patch label : Json}
    (new : ∀ members : Json.Members, patch = .obj members → members.KeepTo typing)
    (updated : node.update patch label = .ok changed) : changed.KeepsTo typing := by
  -- The new settings are the old ones with the patch merged into them, and both keep to the types.
  obtain ⟨settings, members, configured, rfl, rfl⟩ := Node.update_eq_ok.mp updated
  intro merged same
  rw [Node.relabel_config] at same
  cases same
  exact (keeps settings configured).merge (new members rfl)

/-- A node keeps to a typing under a condition that does. -/
theorem Node.KeepsTo.withCondition {node changed : Node} (keeps : node.KeepsTo typing)
    {condition : Json.Members} {text : Json} (new : (Json.obj condition).KeepsTo typing)
    (stored : node.withCondition (.obj condition) text = .ok changed) :
    changed.KeepsTo typing := by
  obtain ⟨settings, _, configured, -, -⟩ := Node.withCondition_eq_ok.mp stored
  rw [Node.withCondition_obj configured, Except.ok.injEq] at stored
  subst stored
  intro merged same
  cases same
  intro member inside named
  -- A setting is an old one, or it is the condition that was stored.
  rcases Json.Members.mem_set inside with before | rfl
  · exact keeps settings configured member before named
  · exact new

/-- The nodes keep to a typing after an operation that does. -/
theorem Workspace.Step.keepTo {space next : Workspace} {operation : Operation}
    (step : space.Step operation next) (new : operation.KeepsTo typing)
    (each : ∀ node ∈ space.document.nodes, node.KeepsTo typing) :
    ∀ node ∈ next.document.nodes, node.KeepsTo typing := by
  -- Fresh nodes have no settings yet, and changed ones get what the operation was given.
  refine step.nodes_forall ?_ ?_ ?_ each
  · exact fun type label _ x y _ => Node.fresh_keepsTo _ _ type label x y
  · rintro id patch label old changed rfl merged kept
    exact kept.update new merged
  · rintro id condition text old changed rfl stored kept
    obtain ⟨⟨members, rfl⟩, suits⟩ := new
    exact kept.withCondition suits stored

end Nodes

section Forms

variable {typing : Typing}

/-- A form for a condition keeps to a typing when it is opened on a node that does. -/
theorem ConditionForm.ofNode_keepsTo {node : Node} (keeps : node.KeepsTo typing)
    {properties : List Property} (typed : Property.Typed typing properties) :
    (ofNode node properties).KeepsTo typing := by
  -- The node keeps to the typing, so what it stores fits the property of its id.
  have sound := ofNode_sound node properties
  have same := sound.offered
  refine ⟨same.symm ▸ typed, ?_, ofNode_holdsOffered.mpr (keeps.fits typed)⟩
  rwa [sound.placed, same]

/-- A form for a condition keeps to a typing under changes that it accepts. -/
theorem ConditionForm.KeepsTo.after {form : ConditionForm} (keeps : form.KeepsTo typing)
    {change : FormChange} (accepted : form.Accepts change) : (form.after change).KeepsTo typing := by
  -- A change that the form accepts leaves it holding what it offers.
  have sound := keeps.sound.after change
  have same := sound.offered
  refine ⟨same.symm ▸ keeps.typed, ?_, (after_holdsOffered accepted).mpr (.inl keeps.holds)⟩
  rwa [sound.placed, same]

/-- A form for a condition stores one that keeps to the typing that the form does. -/
theorem ConditionForm.KeepsTo.condition {form : ConditionForm} (keeps : form.KeepsTo typing)
    {condition : Json.Members} (complete : form.condition? = some condition) :
    (Json.obj condition).KeepsTo typing := by
  obtain ⟨property, selected, compared, rfl⟩ := condition?_eq_some.mp complete
  intro stored id same named counts
  obtain rfl : form.stored property = stored := Json.obj.inj same
  obtain rfl : property.id = id := Json.str.inj named
  -- The condition names the selected property, and the form holds a comparison that is offered for
  -- it.
  rw [← keeps.typed _ _ (keeps.sound.selected property selected)]
  refine ((keeps.sound.offers_iff selected).mp keeps.holds).resolve_left ?_
  intro empty
  rw [empty] at compared
  cases compared

/-- A form for settings keeps to a typing when it is opened on a node that does. -/
theorem StepForm.ofNode_keepTo {node : Node} (keeps : node.KeepsTo typing)
    (sections : List Section) (start : Field → Lookup) :
    (StepForm.ofNode node sections start).values.KeepTo typing := by
  -- A form starts with the settings of its node, or with none if they are no object.
  cases configured : node.config with
  | obj settings =>
    simp only [ofNode, configured, Json.members?, Option.getD_some]
    exact keeps settings configured
  | _ =>
    simp only [ofNode, configured, Json.members?, Option.getD_none]
    intro member inside
    cases inside

/-- A form for settings keeps to a typing under changes that do. -/
theorem StepForm.after_keepTo {form : StepForm} (keep : form.values.KeepTo typing)
    {change : FormChange} (new : change.KeepsTo typing) :
    (form.after change).values.KeepTo typing := by
  rw [(form.after_continues change).values]
  refine Json.Members.KeepTo.merge keep ?_
  cases change with
  | enter label values => exact new
  | select key item =>
    -- What is chosen goes under the key of its field.
    intro member inside named
    simp only [entered, chosen] at inside
    split at inside
    · obtain ⟨value, -, rfl⟩ := List.mem_map.mp inside
      exact (new named).elim
    · cases inside
  | _ => exact nofun

end Forms

namespace EditorSession

variable {session : EditorSession} {typing : Typing}

/-- What the forms of a session come to when they are saved keeps to the typing of the session, and
so does whatever else an action does to the document. -/
theorem KeepsTo.operation (keeps : session.KeepsTo typing) {action : EditorAction}
    (new : action.KeepsTo typing) {operation : Operation}
    (asked : session.operation? action = some operation) : operation.KeepsTo typing := by
  -- What an operation stores was given with the action or held by the form that is saved.
  cases operation_origin asked with
  | updated => exact new.2
  | condition open_ complete =>
    have kept : ConditionForm.KeepsTo _ typing := keeps.forms _ _ open_
    exact ⟨⟨_, rfl⟩, kept.condition complete⟩
  | step open_ =>
    intro members same
    exact Json.obj.inj same ▸ keeps.forms _ _ open_
  | _ => trivial

/-- The nodes of a session keep to its typing after an action that does. -/
theorem KeepsTo.after_nodes (keeps : session.KeepsTo typing) {action : EditorAction}
    (new : action.KeepsTo typing) :
    ∀ node ∈ (session.after action).editor.document.nodes, node.KeepsTo typing := by
  -- New nodes keep to the typing by what is known of the action, and old ones by what was known
  -- before.
  refine (session.after_effect action).nodes_forall (fun operation asked step => ?_) new.1 keeps.nodes
  exact step.keepTo (keeps.operation new asked) keeps.nodes

/-- The forms of a session keep to its typing after an action that does, and that sets no comparison
that is not offered. -/
theorem KeepsTo.after_forms (keeps : session.KeepsTo typing) {action : EditorAction}
    (offered : session.SetsOffered action) (new : action.KeepsTo typing) {place : Nat}
    {form : Form} (open_ : (session.after action).forms[place]? = some form) :
    form.KeepsTo typing := by
  -- A form that was open keeps to the types through its change, and a new one takes after its node.
  cases form_origin open_ with
  | kept there => exact keeps.forms place form there
  | @condition before change there changed =>
    subst changed
    have kept : before.KeepsTo typing := keeps.forms place _ there
    exact kept.after (offered before there)
  | @step before change there changed =>
    subst changed
    have kept : before.values.KeepTo typing := keeps.forms place _ there
    exact StepForm.after_keepTo kept new.2
  | branch found =>
    exact ConditionForm.ofNode_keepsTo (keeps.nodes _ (Document.node?_mem found)) keeps.typed
  | settings found => exact StepForm.ofNode_keepTo (keeps.nodes _ (Document.node?_mem found)) _ _

/-- A session keeps to its typing under actions that do. -/
theorem KeepsTo.after (keeps : session.KeepsTo typing) {action : EditorAction}
    (offered : session.SetsOffered action) (new : action.KeepsTo typing) :
    (session.after action).KeepsTo typing where
  typed := by
    -- Properties are set with types that agree, or they stay.
    obtain same | ⟨properties, rfl, same⟩ := session.after_properties action
    · exact same ▸ keeps.typed
    · exact same ▸ new.2
  nodes := keeps.after_nodes new
  forms _ _ open_ := keeps.after_forms offered new open_

/-- A session that starts empty keeps to every typing that its properties have. -/
theorem KeepsTo.start (typed : Property.Typed typing session.editor.properties)
    (empty : session.editor.document = .empty) (unopened : session.forms = []) :
    session.KeepsTo typing where
  -- Without nodes and forms there is nothing that could differ.
  typed := typed
  nodes := by
    rw [empty]
    exact nofun
  forms place form open_ := by
    rw [unopened] at open_
    cases open_

/-- In a session that keeps to a typing, an open condition form holds what it offers, and so it
saves comparisons of the types of its properties only. -/
theorem run_keepsTo (keeps : session.KeepsTo typing) {actions : List EditorAction}
    (follows : session.Follows
      (fun session action => session.SetsOffered action ∧ action.KeepsTo typing) actions)
    {place : Nat} {form : ConditionForm}
    (open_ : (session.run actions).forms[place]? = some (.condition form)) :
    form.HoldsOffered ∧ ∀ document saved, form.save document = .ok (saved, true) →
      ∃ property changed condition, form.selected = some property ∧
        saved.node? form.node = some changed ∧ changed.condition? = .ok (some condition) ∧
        property.type.Compares (condition.getOrNull "operator") := by
  -- The rule of each action carries the invariant over it, and the form is covered by it in the
  -- end.
  have stays (session : EditorSession) (action : EditorAction)
      (rule : session.SetsOffered action ∧ action.KeepsTo typing) (before : session.KeepsTo typing) :
      (session.after action).KeepsTo typing := before.after rule.1 rule.2
  have kept : (session.run actions).KeepsTo typing := follows.keeps stays keeps
  have held : form.KeepsTo typing := kept.forms place _ open_
  refine ⟨held.holds, fun document saved saves => ?_⟩
  obtain ⟨property, changed, condition, selected, found, stored, -, compares⟩ :=
    held.sound.saved_compares saves
  exact ⟨property, changed, condition, selected, found, stored, compares.mpr held.holds⟩

end EditorSession

end Flowchart
