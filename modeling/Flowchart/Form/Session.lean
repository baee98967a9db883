import Flowchart.Form.Step
import Flowchart.Relation.Session

/-! A step form in use: its option lists with their tasks and requests, and the fetches of labels
that go on. Events may come in any order. -/

namespace Flowchart

/-- How far a fetch of the labels of all stored values has come. -/
inductive FetchState where
  /-- It waits for a task of the option list under a key, before it goes on with other keys. -/
  | waiting (key : String) (task : Nat) (rest : List String)
  | finished
  | failed (fault : LookupFault)
  | cancelled
deriving DecidableEq

/-- A fetch of the labels of all stored values, with the labels that it has so far. -/
structure LabelFetch where
  labels : Json.Members
  state : FetchState
deriving DecidableEq

/-- The part of a step form that option lists have to do with, in use. -/
structure FormSession where
  values : Json.Members
  /-- The option lists of the relation fields, by key. -/
  lookups : List (String × LookupSession)
  /-- The fetches in the order in which they were started. -/
  fetches : List LabelFetch

/-- What can happen to a step form. -/
inductive FormEvent where
  /-- Starts to fetch the labels of all stored values of relation fields. -/
  | fetch
  /-- Chooses an option of a relation field. -/
  | select (key : String) (item : Json)
  /-- Sets some of the values. -/
  | enter (values : Json.Members)
  /-- Something happens to the option list under a key, such as a reply. -/
  | list (key : String) (event : LookupEvent)
deriving DecidableEq

namespace FormSession

/-- A form that nothing has happened to. -/
def start (form : StepForm) : FormSession where
  values := form.values
  lookups := form.lookups.map fun entry => (entry.1, .start entry.2)
  fetches := []

/-- The option list under a key. -/
def lookup? (session : FormSession) (key : String) : Option LookupSession :=
  (session.lookups.find? fun entry => entry.1 == key).map Prod.snd

/-- Lets something happen to the option list under a key. -/
def atList (session : FormSession) (key : String) (event : LookupEvent) : FormSession :=
  { session with
    lookups := session.lookups.map fun entry =>
      if entry.1 == key then (entry.1, entry.2.step event) else entry }

/-- Fetches the labels of the values stored under some keys, one after the other, until one of them
has to be asked for. -/
def goOn (session : FormSession) (labels : Json.Members) : List String → FormSession × LabelFetch
  | [] => (session, ⟨labels, .finished⟩)
  | key :: rest =>
    -- The value is read when its turn comes, which may be long after the fetch was started.
    let value := session.values.getOrNull key
    match session.lookup? key with
    -- Keys without an option list or without a value are passed over.
    | none => session.goOn labels rest
    | some list =>
      if value.isUnset then session.goOn labels rest
      else
        let asked := session.atList key (.label value)
        match list.lookup.beginLabel value with
        | none => asked.goOn (labels ++ [(key, list.lookup.label)]) rest
        | some _ => (asked, ⟨labels, .waiting key list.tasks.length rest⟩)

/-- How far a task of the option list under a key has come. -/
def taskState? (session : FormSession) (key : String) (task : Nat) : Option TaskState := do
  let list ← session.lookup? key
  (list.tasks[task]?).map LookupTask.state

/-- Lets a fetch go on if the task that it waits for has ended. It shares the end of a task that
failed or was cancelled. -/
def resume (session : FormSession) (fetch : LabelFetch) : FormSession × LabelFetch :=
  match fetch.state with
  | .waiting key task rest =>
    match session.taskState? key task with
    | some (.finished label) => session.goOn (fetch.labels ++ [(key, label)]) rest
    | some (.failed fault) => (session, { fetch with state := .failed fault })
    | some .cancelled => (session, { fetch with state := .cancelled })
    | _ => (session, fetch)
  | _ => (session, fetch)

/-- Lets fetches go on, one after the other. -/
def resumeEach (session : FormSession) : List LabelFetch → FormSession × List LabelFetch
  | [] => (session, [])
  | fetch :: rest =>
    let (session, fetch) := session.resume fetch
    let (session, rest) := session.resumeEach rest
    (session, fetch :: rest)

/-- Lets every fetch go on that waits for nothing any more. -/
def resumeAll (session : FormSession) : FormSession :=
  let (session, fetches) := session.resumeEach session.fetches
  { session with fetches }

/-- Starts a fetch of the labels of all stored values. -/
def fetch (session : FormSession) : FormSession :=
  let (session, fetch) := session.goOn [] (session.lookups.map Prod.fst)
  { session with fetches := session.fetches ++ [fetch] }

/-- Chooses an option of a relation field: its id becomes the value. Without a field or with
something that is no option nothing happens. -/
def select (session : FormSession) (key : String) (item : Json) : FormSession :=
  match session.lookup? key, item with
  | some list, .obj item =>
    -- The label changes and the list closes even when there is no id to store.
    let chosen := session.atList key (.select item)
    match (list.lookup.select item).2 with
    | some id => { chosen with values := chosen.values.set key id }
    | none => chosen
  | _, _ => session

/-- The session after an event. -/
def step (session : FormSession) : FormEvent → FormSession
  | .fetch => session.fetch
  | .select key item => session.select key item
  | .enter values => { session with values := session.values.merge values }
  | .list key event => (session.atList key event).resumeAll

/-- The session after a run of events. -/
def run (session : FormSession) (events : List FormEvent) : FormSession :=
  events.foldl step session

end FormSession

end Flowchart
