import Flowchart.Document.Edit
import Flowchart.Relation.Lookup

/-! The form that edits the label and the settings of a step, laid out by the schema of its type. -/

namespace Flowchart

/-- A step being edited. Nothing reaches the document before the form is saved. -/
structure StepForm where
  node : Json
  sections : List Section
  /-- The label, null to leave the one of the node as it is. -/
  label : Json
  values : Json.Members
  /-- The option lists of the relation fields, by key. -/
  lookups : List (String × Lookup)

/-- Why an option could not be chosen. -/
inductive SelectFault where
  /-- No relation field has the key. -/
  | unknownField (key : String)
  /-- The option is no object. -/
  | notObject
  /-- The option has no id to store. -/
  | missingId
deriving DecidableEq

namespace StepForm

/-- The fields shown, in the order of the form. -/
def fields (form : StepForm) : List Field := form.sections.flatMap Section.fields

/-- Puts an option list under a key, in the place of the one that was there. -/
def putLookup : List (String × Lookup) → String → Lookup → List (String × Lookup)
  | [], key, lookup => [(key, lookup)]
  | (k, old) :: rest, key, lookup =>
    if k == key then (k, lookup) :: rest else (k, old) :: putLookup rest key lookup

/-- The option list under a key. -/
def lookup? (form : StepForm) (key : String) : Option Lookup :=
  (form.lookups.find? fun entry => entry.1 == key).map Prod.snd

/-- One option list for each key of a relation field; of several fields with the key the last one
counts. -/
def lookupsOf (sections : List Section) (start : Field → Lookup) : List (String × Lookup) :=
  ((sections.flatMap Section.fields).filter fun field => field.type = .relation).foldl
    (fun lookups field => putLookup lookups field.key (start field)) []

/-- Opens the form on a node. -/
def ofNode (node : Node) (sections : List Section) (start : Field → Lookup) : StepForm where
  node := node.id
  sections := sections
  -- The text on the node comes first, and an empty label will do in the end.
  label := if node.text.isTruthy then node.text else Saved.textOrEmpty node.label
  values := node.config.members?.getD []
  lookups := lookupsOf sections start

/-- Opens closed sections of a title, and closes open ones. -/
def toggle (form : StepForm) (title : String) : StepForm :=
  { form with
    sections := form.sections.map fun part =>
      if part.title = title then { part with expanded := !part.expanded } else part }

/-- Sets the label, if one is given, and some of the values. -/
def edit (form : StepForm) (label : Option Json) (values : Json.Members) : StepForm :=
  { form with label := label.getD form.label, values := form.values.merge values }

/-- Chooses an option of a relation field: its id becomes the value. -/
def select (form : StepForm) (key : String) (item : Json) : StepForm × Option SelectFault :=
  match form.lookup? key, item with
  | none, _ => (form, some (.unknownField key))
  | some lookup, .obj item =>
    -- The label changes and the list closes even when there is no id to store.
    let (lookup, id) := lookup.select item
    let form := { form with lookups := putLookup form.lookups key lookup }
    match id with
    | some id => ({ form with values := form.values.set key id }, none)
    | none => (form, some .missingId)
  | some _, _ => (form, some .notObject)

/-- Fetches the label of one value. Without a need to ask, the label that is shown answers;
otherwise a reply is taken, and without one the server is out of reach. -/
def resolve (lookup : Lookup) (value : Json) (replies : List Reply) :
    Lookup × List Reply × Except LookupFault Json :=
  match lookup.beginLabel value with
  | none => (lookup, replies, .ok lookup.label)
  | some (request, asked) =>
    let (lookup, outcome) := asked.finishLabel request (replies.headD .unavailable)
    (lookup, replies.tail, outcome)

/-- Fetches the labels of the values stored under some keys, one after the other. A fault ends the
fetching. -/
def resolveKeys (form : StepForm) (replies : List Reply) : List String →
    StepForm × List Reply × Except LookupFault Json.Members
  | [] => (form, replies, .ok [])
  | key :: rest =>
    let value := form.values.getOrNull key
    match form.lookup? key with
    -- Keys without an option list or without a value are passed over.
    | none => resolveKeys form replies rest
    | some lookup =>
      if value.isUnset then resolveKeys form replies rest
      else
        let (lookup, replies, outcome) := resolve lookup value replies
        let form := { form with lookups := putLookup form.lookups key lookup }
        match outcome with
        | .error fault => (form, replies, .error fault)
        | .ok label =>
          let (form, replies, labels) := resolveKeys form replies rest
          (form, replies, labels.map fun labels => (key, label) :: labels)

/-- Fetches the labels of all stored values of relation fields, given the replies to come. -/
def loadLabels (form : StepForm) (replies : List Reply) :
    StepForm × List Reply × Except LookupFault Json.Members :=
  form.resolveKeys replies (form.lookups.map Prod.fst)

/-- Stores the values and the label in the node. -/
def save (form : StepForm) (document : Document) : Except DocumentFault (Document × Bool) := do
  let (document, _) ← document.updateNode form.node (.obj form.values) form.label
  return (document, true)

end StepForm

end Flowchart
