import Flowchart.Relation.Lookup

/-! An option list in use: tasks that wait for typing to pause or for an answer, and every request
made so far. Events may come in any order. -/

namespace Flowchart

/-- What a task is for. -/
inductive TaskKind where
  | load
  | search
  | toggle
  | label
deriving DecidableEq

/-- How far a task has come. -/
inductive TaskState where
  /-- It waits for the typing to pause, in the generation it was made in. -/
  | resting (generation : Nat)
  /-- It waits for the answer to a request, given by its number. -/
  | asking (call : Nat)
  | finished (result : Json)
  | failed (fault : LookupFault)
  | cancelled
deriving DecidableEq

/-- Something that was started and goes on by itself. -/
structure LookupTask where
  kind : TaskKind
  state : TaskState
deriving DecidableEq

namespace LookupTask

/-- Whether the task has neither ended nor been cancelled. -/
def isPending (task : LookupTask) : Bool :=
  match task.state with
  | .resting _ | .asking _ => true
  | _ => false

/-- The task after it is cancelled; one that has ended stays as it is. -/
def cancel (task : LookupTask) : LookupTask :=
  if task.isPending then { task with state := .cancelled } else task

end LookupTask

/-- A request that was made, with what came back for it. -/
structure Call where
  request : Request
  reply : Option Reply
deriving DecidableEq

/-- An option list with its tasks and requests, in the order in which they were started. -/
structure LookupSession where
  lookup : Lookup
  tasks : List LookupTask
  calls : List Call

/-- What can happen to an option list. -/
inductive LookupEvent where
  | load (byScroll : Bool)
  | scroll (height top shown : Json)
  | toggle
  | search (term : Json)
  | label (value : Json)
  | select (item : Json.Members)
  /-- The typing has paused for long enough. -/
  | wake (task : Nat)
  | reply (call : Nat) (reply : Reply)
  | cancel (task : Nat)
deriving DecidableEq

namespace LookupSession

/-- An option list that nothing has happened to. -/
def start (lookup : Lookup) : LookupSession := ⟨lookup, [], []⟩

/-- Adds a task. -/
def addTask (session : LookupSession) (kind : TaskKind) (state : TaskState) : LookupSession :=
  { session with tasks := session.tasks ++ [⟨kind, state⟩] }

/-- Puts a task into a state. -/
def setTask (session : LookupSession) (task : Nat) (state : TaskState) : LookupSession :=
  { session with tasks := session.tasks.modify task fun old => { old with state } }

/-- Makes a request; its number is the count of those before it. -/
def call (session : LookupSession) (request : Request) : LookupSession :=
  { session with calls := session.calls ++ [⟨request, none⟩] }

/-- Starts a task that loads a page. -/
def load (session : LookupSession) (byScroll : Bool) : LookupSession :=
  -- A load that may not begin is over at once and has loaded nothing.
  match session.lookup.beginLoad byScroll with
  | none => session.addTask .load (.finished (.bool false))
  | some (request, lookup) =>
    ({ session with lookup }.addTask .load (.asking session.calls.length)).call (.page request)

/-- Starts a task that loads a page if the list is scrolled near its end. -/
def scroll (session : LookupSession) (height top shown : Json) : LookupSession :=
  match session.lookup.isNearEnd height top shown with
  | .ok true => session.load true
  | .ok false => session.addTask .load (.finished (.bool false))
  | .error fault => session.addTask .load (.failed fault)

/-- The list flipped, and how the task that flipped it ends. -/
def flip (lookup : Lookup) : Lookup × TaskState :=
  let lookup := lookup.flip
  (lookup, .finished (.bool lookup.isOpen))

/-- Starts a task that opens or closes the list. The first one loads the first page before. -/
def toggle (session : LookupSession) : LookupSession :=
  -- Only the first opening loads; later ones just flip the list.
  let begun :=
    if session.lookup.initialized then none else session.lookup.markOpened.beginLoad false
  match begun with
  | none =>
    let (lookup, state) := flip session.lookup.markOpened
    { session with lookup }.addTask .toggle state
  | some (request, lookup) =>
    ({ session with lookup }.addTask .toggle (.asking session.calls.length)).call (.page request)

/-- The list after one of its tasks is cancelled: a page that it asked for is let go of. -/
def releaseTask (calls : List Call) (lookup : Lookup) (task : LookupTask) : Lookup :=
  -- Only a request for a page holds the list; one for a label does not.
  match task.state with
  | .asking call =>
    match calls[call]? with
    | some ⟨.page request, _⟩ => lookup.release request
    | _ => lookup
  | _ => lookup

/-- Cancels a task that has not ended. -/
def cancel (session : LookupSession) (task : Nat) : LookupSession :=
  match session.tasks[task]? with
  | none => session
  | some old =>
    { session with
      lookup := releaseTask session.calls session.lookup old
      tasks := session.tasks.modify task LookupTask.cancel }

/-- The place of the search that was started last among tasks. -/
def lastSearch? : List LookupTask → Option Nat
  | [] => none
  | task :: rest =>
    match lastSearch? rest with
    | some place => some (place + 1)
    | none => if task.kind = .search then some 0 else none

/-- Starts a search. The task of the search before it is cancelled, whatever it waits for. -/
def search (session : LookupSession) (term : Json) : LookupSession :=
  -- The new generation comes first, so that what is cancelled can change nothing.
  let restarted := { session with lookup := session.lookup.restart term }
  let cancelled := match lastSearch? session.tasks with
    | some task => restarted.cancel task
    | none => restarted
  cancelled.addTask .search (.resting cancelled.lookup.generation)

/-- Starts a task that fetches the label of a value. -/
def label (session : LookupSession) (value : Json) : LookupSession :=
  match session.lookup.beginLabel value with
  | none => session.addTask .label (.finished session.lookup.label)
  | some (request, lookup) =>
    ({ session with lookup }.addTask .label (.asking session.calls.length)).call (.label request)

/-- Begins the search of a task that has rested since a generation. -/
def beginSearch (session : LookupSession) (task generation : Nat) : LookupSession :=
  -- A search that was overtaken while it rested never asks.
  if generation = session.lookup.generation then
    match session.lookup.beginLoad false with
    | none => session.setTask task (.finished (.bool false))
    | some (request, lookup) =>
      ({ session with lookup }.setTask task (.asking session.calls.length)).call (.page request)
  else session.setTask task (.finished (.bool false))

/-- Lets a task go on that waited for the typing to pause. -/
def wake (session : LookupSession) (task : Nat) : LookupSession :=
  match (session.tasks[task]?).map LookupTask.state, session.lookup.restTime with
  | some (.resting generation), .ok _ => session.beginSearch task generation
  -- For a time that is none no task can rest.
  | some (.resting _), .error fault => session.setTask task (.failed fault)
  | _, _ => session

/-- The list, and the state of the task that asked, once there is a reply to its request. -/
def settle (lookup : Lookup) (kind : TaskKind) (request : Request) (reply : Reply) :
    Lookup × TaskState :=
  match request with
  | .page request =>
    -- The toggle that asked for the first page flips the list only now.
    match lookup.finishLoad request reply with
    | (lookup, .error fault) => (lookup, .failed fault)
    | (lookup, .ok loaded) =>
      if kind = .toggle then flip lookup else (lookup, .finished (.bool loaded))
  | .label request =>
    match lookup.finishLabel request reply with
    | (lookup, .error fault) => (lookup, .failed fault)
    | (lookup, .ok label) => (lookup, .finished label)

/-- Whether a task waits for the answer to a request. -/
def awaits (call : Nat) (task : LookupTask) : Bool := task.state = .asking call

/-- Whether some task waits for the answer to a request. -/
def isHeld (session : LookupSession) (call : Nat) : Bool := session.tasks.any (awaits call)

/-- Hands a reply to the task that waits for it. Without such a task nothing happens. -/
def reply (session : LookupSession) (call : Nat) (reply : Reply) : LookupSession :=
  -- At most one task waits for a request, the one that made it.
  match session.tasks.findIdx? (awaits call), session.calls[call]? with
  | some task, some made =>
    match session.tasks[task]? with
    | none => session
    | some old =>
      let (lookup, state) := settle session.lookup old.kind made.request reply
      { session with
        lookup
        calls := session.calls.set call { made with reply := some reply } }.setTask task state
  | _, _ => session

/-- The session after an event. -/
def step (session : LookupSession) : LookupEvent → LookupSession
  | .load byScroll => session.load byScroll
  | .scroll height top shown => session.scroll height top shown
  | .toggle => session.toggle
  | .search term => session.search term
  | .label value => session.label value
  | .select item => { session with lookup := (session.lookup.select item).1 }
  | .wake task => session.wake task
  | .reply call reply => session.reply call reply
  | .cancel task => session.cancel task

/-- The session after a run of events. -/
def run (session : LookupSession) (events : List LookupEvent) : LookupSession :=
  events.foldl step session

end LookupSession

end Flowchart
