import Flowchart.Json.Display
import Flowchart.Relation
import Flowchart.Schema

/-! The option list of one field: its pages, its search term and the label of what is chosen. Every
search opens a new generation, and what was asked in an older one changes nothing any more. -/

namespace Flowchart

/-- The state of an option list. -/
structure Lookup where
  field : Field
  /-- Without a server there is nothing to load. -/
  hasServer : Bool
  /-- How long typing must pause before a search begins: a number of seconds as a rule. -/
  debounce : Json
  /-- How near the end of the list counts as its end. -/
  scrollThreshold : Json
  options : List Json
  /-- The page to ask for next. -/
  page : Nat
  hasMore : Bool
  loading : Bool
  /-- What is searched for, a text as a rule. -/
  term : Json
  isOpen : Bool
  /-- The first page was asked for when the list was opened for the first time. -/
  initialized : Bool
  /-- The label of the chosen option, null for none. -/
  label : Json
  generation : Nat
deriving DecidableEq, Inhabited

/-- Why loading or labelling went wrong. -/
inductive LookupFault where
  | broken (message : String)
  | answer (fault : AnswerFault)
  /-- A length or a time is no number. -/
  | notNumber
  | arithmetic (fault : Number.Fault)
  /-- A stored value cannot be shown. -/
  | unwritable (reason : Unwritable)
deriving DecidableEq

namespace Lookup

/-- The label shown while the real one is on its way. -/
def placeholder : String := "Loading..."

/-- A closed list that has loaded nothing. -/
def start (field : Field) (hasServer : Bool) (debounce scrollThreshold : Json) : Lookup where
  field := field
  hasServer := hasServer
  debounce := debounce
  scrollThreshold := scrollThreshold
  options := []
  page := 1
  hasMore := true
  loading := false
  term := .str ""
  isOpen := false
  initialized := false
  label := .null
  generation := 0

/-- The request for the next page. -/
def request (lookup : Lookup) : PageRequest where
  relationClass := lookup.field.relationClass
  term := lookup.term
  page := lookup.page
  filter := lookup.field.filter
  generation := lookup.generation

/-- Begins to load the next page, unless there is no server, a page is on its way already, or the
list was scrolled to its end and has no more pages. -/
def beginLoad (lookup : Lookup) (byScroll : Bool) : Option (PageRequest × Lookup) :=
  if !lookup.hasServer || lookup.loading || (byScroll && !lookup.hasMore) then none
  else some (lookup.request, { lookup with loading := true })

/-- Whether a request belongs to the search at hand. -/
def isCurrent (lookup : Lookup) (request : PageRequest) : Bool :=
  request.generation == lookup.generation

/-- Lets go of a request, however it ended. -/
def release (lookup : Lookup) (request : PageRequest) : Lookup :=
  if lookup.isCurrent request then { lookup with loading := false } else lookup

/-- Takes in the page that was asked for; the first page replaces what was there. -/
def accept (lookup : Lookup) (page : Page) : Lookup :=
  { lookup with
    options := if lookup.page = 1 then page.items else lookup.options ++ page.items
    hasMore := page.hasMore
    page := lookup.page + 1 }

/-- Ends a request for a page with what came back, and tells whether the page was taken in. -/
def finishLoad (lookup : Lookup) (request : PageRequest) (reply : Reply) :
    Lookup × Except LookupFault Bool :=
  -- Every ending lets go of the request, a fault as well as an answer.
  let released := lookup.release request
  match reply with
  | .unavailable => (released, .ok false)
  | .broken message => (released, .error (.broken message))
  | .answer response =>
    -- What was asked before the last search has no place in its results.
    if lookup.isCurrent request then
      match Page.ofAnswer response with
      | .ok page => (released.accept page, .ok true)
      | .error fault => (released, .error (.answer fault))
    else (released, .ok false)

/-- Starts over with a term, in a new generation. -/
def restart (lookup : Lookup) (term : Json) : Lookup :=
  { lookup with
    term, page := 1, hasMore := true, loading := false, generation := lookup.generation + 1 }

/-- How long a search rests before it begins, in seconds; none if it does not rest at all. -/
def restTime (lookup : Lookup) : Except LookupFault (Option Float) :=
  match lookup.debounce.number? with
  | none => .error .notNumber
  -- A pause that is over before it starts needs no clock.
  | some seconds =>
    if seconds.le (.int 0) then .ok none else (seconds.toFloat.map some).mapError .arithmetic

/-- Two lengths put together. -/
def combine (operation : Number → Number → Except Number.Fault Number) (a b : Json) :
    Except LookupFault Number :=
  match a.number?, b.number? with
  | some a, some b => (operation a b).mapError .arithmetic
  | _, _ => .error .notNumber

/-- Whether a scrolled list shows its end or comes near it. -/
def isNearEnd (lookup : Lookup) (height top shown : Json) : Except LookupFault Bool := do
  -- What is left below the top of the view is held against the view and the threshold.
  let below ← combine Number.sub height top
  let limit ← combine Number.add shown lookup.scrollThreshold
  return below.le limit

/-- Notes that the list was opened once. -/
def markOpened (lookup : Lookup) : Lookup := { lookup with initialized := true }

/-- Opens a closed list and closes an open one. -/
def flip (lookup : Lookup) : Lookup := { lookup with isOpen := !lookup.isOpen }

/-- Chooses an option: its label is shown, the list closes, and its id is the value to store. An
option without an id has none. -/
def select (lookup : Lookup) (item : Json.Members) : Lookup × Option Json :=
  ({ lookup with label := item.getOrNull "label", isOpen := false }, item.get? "id")

/-- Begins to fetch the label of a stored value, unless a label is known, there is no server or
there is no value. -/
def beginLabel (lookup : Lookup) (value : Json) : Option (LabelRequest × Lookup) :=
  if lookup.label.isTruthy || !lookup.hasServer || value.isUnset then none
  else some (⟨lookup.field.relationClass, value⟩, { lookup with label := .str placeholder })

/-- Ends a request for a label with what came back. A value without a label is shown itself, and is
made a text for that even if there is a label. -/
def finishLabel (lookup : Lookup) (request : LabelRequest) (reply : Reply) :
    Lookup × Except LookupFault Json :=
  let labelled (label : Json) : Lookup × Except LookupFault Json :=
    ({ lookup with label }, .ok label)
  match reply, request.value.display with
  | .broken message, _ => (lookup, .error (.broken message))
  | .unavailable, .ok shown => labelled (.str shown)
  | .unavailable, .error reason => (lookup, .error (.unwritable reason))
  -- The value itself is better than no label at all.
  | .answer (.obj members), .ok shown =>
    labelled ((Json.Members.get? members "label").getD (.str shown))
  | .answer (.obj _), .error reason => (lookup, .error (.unwritable reason))
  | .answer _, _ => (lookup, .error (.answer .notObject))

end Lookup

end Flowchart
