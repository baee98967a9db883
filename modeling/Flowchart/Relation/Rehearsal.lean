import Flowchart.Relation.Session

/-! An option list on a clock of its own, with a server that answers from a script. -/

namespace Flowchart

/-- A session with a clock, the times at which tasks wake up, and the replies given at once. A
request without such a reply is held until one is given. -/
structure Rehearsal where
  session : LookupSession
  script : List (Option Reply)
  now : Float
  /-- Tasks with the times at which they wake up; without a time that is at once. -/
  alarms : List (Nat × Option Float)

namespace Rehearsal

/-- A session at time zero. -/
def start (lookup : Lookup) (script : List (Option Reply)) : Rehearsal :=
  ⟨.start lookup, script, 0.0, []⟩

/-- The least difference between two times that the clock can tell, in seconds. -/
def resolution : Float := 1e-9

/-- Whether a time is not still to come, as far as the clock can tell. -/
def isDue (rehearsal : Rehearsal) (time : Option Float) : Bool :=
  -- At late times the clock cannot tell its resolution, so that a time that has come may wait.
  time.all fun time => !(rehearsal.now + resolution ≤ time)

/-- Wakes the tasks whose time has come. -/
def wakeDue (rehearsal : Rehearsal) : Rehearsal :=
  -- Tasks wake in the order in which they were started.
  let (due, later) := rehearsal.alarms.partition fun alarm => rehearsal.isDue alarm.2
  { rehearsal with
    session := rehearsal.session.run (due.map fun alarm => .wake alarm.1)
    alarms := later }

/-- Gives every reply of the script whose request is held. -/
def answerScripted (rehearsal : Rehearsal) : Rehearsal :=
  -- A reply whose request is not held changes nothing, so all of them may be given.
  let replies := rehearsal.script.mapIdx fun call reply => reply.map (LookupEvent.reply call)
  { rehearsal with session := rehearsal.session.run (replies.filterMap id) }

/-- Goes on until only time or held replies are waited for. -/
def settle (rehearsal : Rehearsal) : Rehearsal := rehearsal.wakeDue.answerScripted

/-- Lets an event happen. -/
def perform (rehearsal : Rehearsal) (event : LookupEvent) : Rehearsal :=
  settle { rehearsal with session := rehearsal.session.step event }

/-- Starts a search, which begins once the typing has paused. -/
def startSearch (rehearsal : Rehearsal) (term : Json) : Rehearsal :=
  let task := rehearsal.session.tasks.length
  let session := rehearsal.session.search term
  -- A task whose time is no number wakes at once, to fail.
  let time := (session.lookup.restTime.toOption.join).map (rehearsal.now + ·)
  { rehearsal with session, alarms := rehearsal.alarms ++ [(task, time)] }

/-- Starts a search for each term, with nothing going on in between. -/
def search (rehearsal : Rehearsal) (terms : List Json) : Rehearsal :=
  (terms.foldl startSearch rehearsal).settle

/-- Lets time pass. -/
def advance (rehearsal : Rehearsal) (seconds : Float) : Rehearsal :=
  settle { rehearsal with now := rehearsal.now + seconds }

end Rehearsal

end Flowchart
