import Flowchart.Json

/-! What is asked of a server that offers options for a field, and what comes back. -/

namespace Flowchart

/-- A request for one page of the options that match a term. Its generation tells which search it
belongs to. -/
structure PageRequest where
  relationClass : Option String
  term : Json
  page : Nat
  filter : Json.Members
  generation : Nat
deriving DecidableEq, Inhabited

/-- A request for the label of a stored value. -/
structure LabelRequest where
  relationClass : Option String
  value : Json
deriving DecidableEq, Inhabited

/-- Anything asked of a server. -/
inductive Request where
  | page (request : PageRequest)
  | label (request : LabelRequest)
deriving DecidableEq, Inhabited

/-- What comes back for a request. -/
inductive Reply where
  /-- The server answered. -/
  | answer (response : Json)
  /-- The server refused, was out of reach or took too long. -/
  | unavailable
  /-- Something else went wrong on the way. -/
  | broken (message : String)
deriving DecidableEq

/-- Why an answer makes no sense. -/
inductive AnswerFault where
  /-- It is not an object. -/
  | notObject
  /-- Its items cannot be listed. -/
  | notItems
deriving DecidableEq

/-- A page of options. -/
structure Page where
  items : List Json
  hasMore : Bool
deriving DecidableEq, Inhabited

namespace Page

/-- The page in an answer. Without items it is empty, and it is the last one unless it says
otherwise. -/
def ofAnswer : Json → Except AnswerFault Page
  | .obj members => do
    -- Items that are there have to be a list or something that can be listed.
    let members : Json.Members := members
    match ((members.get? "items").getD (.arr [])).items? with
    | some items => return { items, hasMore := (members.getOrNull "hasMore").isTruthy }
    | none => .error .notItems
  | _ => .error .notObject

end Page

end Flowchart
