import Flowchart.Form
import Flowchart.Proofs.Document.InPlace
import Flowchart.Proofs.Json.Members

/-! The settings of a step while they are edited, and what saving them writes. A form holds a copy
of the settings that was made when it was opened. Changes enter values in the copy, one after the
other, and a save merges the whole copy into the settings that the node has by then. -/

namespace Flowchart

namespace StepForm

/-- The value that choosing an option enters in a form: its id, if the key has an option list. -/
def chosen (form : StepForm) (key : String) (item : Json) : Json.Members :=
  -- An option without an id is shown and not entered.
  match form.lookup? key, item with
  | some lookup, .obj item => (lookup.select item).2.toList.map fun id => (key, id)
  | _, _ => []

/-- The values that a change enters in a form. -/
def entered (form : StepForm) : FormChange → Json.Members
  | .enter _ values => values
  | .select key item => form.chosen key item
  | _ => []

/-- The form after a change. -/
def after (form : StepForm) : FormChange → StepForm
  | .toggle title => form.toggle title
  | .enter label values => form.edit label values
  | .select key item => (form.select key item).1
  | .fetch replies => (form.loadLabels replies).1
  | _ => form

/-- The values that changes enter in a form, one after the other. -/
def entries (form : StepForm) : List FormChange → Json.Members
  | [] => []
  | change :: rest => form.entered change ++ (form.after change).entries rest

/-- A form that another one has become: it is a form on the same node with the same fields, and some
values were entered in it. -/
structure Continues (form next : StepForm) (entered : Json.Members) : Prop where
  node : next.node = form.node
  fields : next.fields = form.fields
  values : next.values = form.values.merge entered

section Changes

variable {form : StepForm}

/-- What is entered before and afterwards is entered in one go. -/
theorem Continues.trans {next last : StepForm} {first second : Json.Members}
    (before : form.Continues next first) (later : next.Continues last second) :
    form.Continues last (first ++ second) where
  node := later.node.trans before.node
  fields := later.fields.trans before.fields
  values := by
    -- Merging goes through the members from the first one to the last.
    rw [later.values, before.values, Json.Members.merge, Json.Members.merge, Json.Members.merge,
      List.foldl_append]

/-- Opening and closing sections leaves the fields in them. -/
theorem toggle_fields (form : StepForm) (title : String) :
    (form.toggle title).fields = form.fields := by
  -- Opening a section changes what is shown of it and not its fields.
  unfold toggle fields
  rw [List.flatMap_map]
  refine List.flatMap_congr fun part _ => ?_
  split <;> rfl

/-- Choosing an option enters its id, if it has one. -/
theorem select_continues (form : StepForm) (key : String) (item : Json) :
    form.Continues (form.select key item).1 (form.chosen key item) := by
  unfold select chosen
  -- An item is only chosen from a list that is there, and only a chosen id becomes a value.
  cases form.lookup? key with
  | none => exact ⟨rfl, rfl, rfl⟩
  | some lookup =>
    cases item with
    | obj members =>
      dsimp only
      cases (lookup.select members).2 with
      | none => exact ⟨rfl, rfl, rfl⟩
      | some value => exact ⟨rfl, rfl, rfl⟩
    | _ => exact ⟨rfl, rfl, rfl⟩

/-- Fetching labels changes at most the option lists that they are shown in, whatever the replies
are. -/
theorem resolveKeys_eq (keys : List String) :
    ∀ (form : StepForm) (replies : List Reply),
      ∃ lookups, (form.resolveKeys replies keys).1 = { form with lookups } := by
  -- Each key changes its own lookup at most, and an answer that fails ends the fetch.
  induction keys with
  | nil => exact fun form replies => ⟨form.lookups, rfl⟩
  | cons key rest ih =>
    intro form replies
    unfold resolveKeys
    dsimp only
    split
    · exact ih form replies
    · split
      · exact ih form replies
      · next lookup _ _ =>
        split
        · exact ⟨_, rfl⟩
        · -- The rest of the keys goes on with the list that was changed.
          obtain ⟨lookups, same⟩ := ih { form with
            lookups := putLookup form.lookups key
              (resolve lookup (form.values.getOrNull key) replies).1 } _
          exact ⟨lookups, same⟩

/-- Fetching labels enters nothing. -/
theorem resolveKeys_continues (keys : List String) (form : StepForm) (replies : List Reply) :
    form.Continues (form.resolveKeys replies keys).1 [] := by
  -- Labels are put into lookups, and nothing is entered.
  obtain ⟨lookups, same⟩ := resolveKeys_eq keys form replies
  rw [same]
  exact ⟨rfl, rfl, rfl⟩

/-- A change enters its values and nothing else. -/
theorem after_continues (form : StepForm) (change : FormChange) :
    form.Continues (form.after change) (form.entered change) := by
  cases change with
  | toggle title => exact ⟨rfl, form.toggle_fields title, rfl⟩
  | enter label values => exact ⟨rfl, rfl, rfl⟩
  | select key item => exact form.select_continues key item
  | fetch replies => exact resolveKeys_continues _ form replies
  -- The other changes are made in forms for conditions.
  | _ => exact ⟨rfl, rfl, rfl⟩

/-- A change leaves a form for settings what it is. -/
theorem change_eq (form : StepForm) (change : FormChange) :
    Form.change (.step form) change = .step (form.after change) := by
  cases change <;> rfl

/-- Changes enter their values one after the other, and nothing else. -/
theorem run_continues (changes : List FormChange) :
    ∀ form : StepForm, ∃ last, changes.foldl Form.change (.step form) = .step last ∧
      form.Continues last (form.entries changes) := by
  -- Each change keeps what the form is about, and the values grow by what is entered.
  induction changes with
  | nil => exact fun form => ⟨form, rfl, rfl, rfl, rfl⟩
  | cons change rest ih =>
    intro form
    obtain ⟨last, reached, continues⟩ := ih (form.after change)
    refine ⟨last, ?_, (form.after_continues change).trans continues⟩
    rw [List.foldl_cons, change_eq, reached]

end Changes

/-- The node with the values and the label of a form put into it. -/
def written (form : StepForm) (node : Node) (settings : Json.Members) : Node :=
  Node.relabel { node with
    config := .obj (settings.merge form.values)
    oddSteps := if form.values.contains conditionKey then [] else node.oddSteps } form.label

section Saving

variable {form : StepForm} {document : Document} {node : Node} {settings : Json.Members}

/-- A node keeps its id and its type when a form is put into it. -/
theorem written_frame (form : StepForm) (node : Node) (settings : Json.Members) :
    (form.written node settings).frame = node.frame := by
  -- Neither a label nor settings are part of the frame.
  rw [written, Node.relabel_frame]
  rfl

/-- The values of the form are merged into the settings, whether there is a label or not. -/
theorem written_config (form : StepForm) (node : Node) (settings : Json.Members) :
    (form.written node settings).config = .obj (settings.merge form.values) := by
  rw [written, Node.relabel_config]

/-- A form is saved if its node is there and has an object for its settings. -/
theorem save_eq (found : document.node? form.node = some node)
    (configured : node.config = .obj settings) :
    form.save document =
      .ok (document.withNode form.node (form.written node settings), true) := by
  -- The settings of the node take the values of the form, which always are an object.
  have merges : node.update (.obj form.values) form.label = .ok (form.written node settings) :=
    Node.update_eq_ok.mpr ⟨settings, form.values, configured, rfl, rfl⟩
  have stores : document.updateNode form.node (.obj form.values) form.label =
      .ok (document.withNode form.node (form.written node settings), form.written node settings) :=
    Document.modify_eq_ok.mpr ⟨node, found, merges, rfl⟩
  rw [save, stores]
  rfl

/-- The node that a form was saved in is found where it was. -/
theorem node?_written (found : document.node? form.node = some node) (settings : Json.Members) :
    (document.withNode form.node (form.written node settings)).node? form.node =
      some (form.written node settings) :=
  Document.node?_withNode found (congrArg Prod.fst (form.written_frame node settings))

end Saving

end StepForm

end Flowchart
