import Flowchart.Json.Display
import Flowchart.Json.Equality
import Flowchart.Json.Writer
import Flowchart.Relation
import Flowchart.Text.Percent

/-! A server of options that is asked over the web. -/

namespace Flowchart

/-- Where a server is, and how it is asked. -/
structure RelationServer where
  /-- The address without slashes at its end. -/
  base : String
  timeout : Json
  headers : Json
deriving DecidableEq

/-- A request as it goes out. -/
structure WebRequest where
  url : String
  params : Option Json.Members
  headers : Json
  timeout : Json
deriving DecidableEq

/-- A response as it comes in. -/
structure WebResponse where
  status : Json
  text : Json
  body : Json
deriving DecidableEq

/-- Why a response is of no use. -/
inductive ServerFault where
  | refused (message : String)
  | answer (fault : AnswerFault)
  /-- A value cannot be shown. -/
  | unwritable (reason : Unwritable)
deriving DecidableEq

/-- The wording of a refusal. -/
def refusalMessage (status text : Json) : Except Unwritable String := do
  return "Relation lookup failed (" ++ (← status.display) ++ "): " ++ (← text.display)

namespace RelationServer

/-- How long a server is waited for when nothing else is said, in seconds. -/
def defaultTimeout : Json := .float 10.0

/-- A text without slashes at its end. -/
def trimSlashes (address : String) : String :=
  String.ofList (address.toList.reverse.dropWhile (· = '/')).reverse

/-- A server at an address. -/
def atAddress (address : String) (timeout headers : Json) : RelationServer :=
  ⟨trimSlashes address, timeout, headers⟩

/-- The path of a class. A missing class has a name all the same. -/
def classPath (relationClass : Json) : Except Unwritable String := do
  return "/relations/" ++ (← relationClass.display)

/-- The request for a page. Empty filters are left out. -/
def pageRequest (server : RelationServer) (relationClass term page filter : Json) :
    Except Unwritable WebRequest := do
  -- The term and the page are there even when they are empty or the first.
  let asked := [("search", term), ("page", .str (← page.display))]
  let filters ← if filter.isTruthy then
      do pure [("filter", .str (← filter.writtenBy Json.compact))]
    else pure []
  return {
    url := server.base ++ (← classPath relationClass)
    params := some (asked ++ filters)
    headers := server.headers
    timeout := server.timeout }

/-- The request for the label of a stored value, which is one segment of the address. A value that
cannot be shown is not asked for. -/
def labelRequest (server : RelationServer) (relationClass value : Json) :
    Except Unwritable WebRequest := do
  let path ← classPath relationClass
  -- Coding leaves no slash in the segment, so a value never adds to the path.
  let segment := Percent.encode (← value.display)
  return {
    url := server.base ++ path ++ "/" ++ segment
    params := none
    headers := server.headers
    timeout := server.timeout }

end RelationServer

namespace WebResponse

/-- The body of a response that succeeded. -/
def accepted (response : WebResponse) : Except ServerFault Json := do
  if response.status.equals (.int 200) then return response.body
  else throw (.refused (← (refusalMessage response.status response.text).mapError .unwritable))

/-- The page in a response. -/
def page (response : WebResponse) : Except ServerFault Page := do
  (Page.ofAnswer (← response.accepted)).mapError .answer

/-- The label in a response; a value without one is shown itself. -/
def label (response : WebResponse) (value : Json) : Except ServerFault Json := do
  match ← response.accepted with
  | .obj members =>
    let shown ← value.display.mapError .unwritable
    return (Json.Members.get? members "label").getD (.str shown)
  | _ => .error (.answer .notObject)

end WebResponse

end Flowchart
