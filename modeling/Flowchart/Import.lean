import Flowchart.Json.Reader
import Flowchart.Payload
import Flowchart.Text.Encoding

/-! Importing saved documents, from text, from bytes or from a value that was read already. -/

namespace Flowchart

/-- What an import starts from. -/
inductive ImportSource where
  | text (text : String)
  | bytes (bytes : ByteArray)
  | value (value : Json)

/-- Why nothing was imported. -/
inductive ImportError where
  | notUnicode (fault : Encoding.Fault)
  | notJson (fault : Json.Fault) (line column position : Nat)
  | notObject
  | noNodes
  | malformed (issues : List Issue)
  /-- A whole number in the text has too many digits to be read. -/
  | tooManyDigits (digits : Nat)
  /-- The checked document has no saved value. -/
  | unwritable (reason : Unwritable)
  /-- The checked document could not be restored. -/
  | unusable (fault : DocumentFault)
deriving DecidableEq

namespace ImportError

/-- Whether the error is about the format of the document, and not about the limits of the
reader. -/
def isFormat : ImportError → Bool
  | tooManyDigits _ => false
  | unwritable _ => false
  | unusable _ => false
  | _ => true

/-- The line that introduces a list of issues. -/
def issuesTitle (issues : List Issue) : String :=
  let count := issues.length
  "Invalid flow document: " ++ toString count ++
    (if count = 1 then " validation error for " else " validation errors for ") ++
    Payload.recordName

/-- The wording of an error, in one line. -/
def message : ImportError → String
  | notUnicode fault => "Invalid JSON: " ++ fault.message
  | notJson fault line column position =>
    "Invalid JSON: " ++ (Json.ReadError.malformed fault line column position).message
  | notObject => "Expected a JSON object"
  | noNodes => "Document has no nodes collection"
  | malformed issues => issuesTitle issues
  | tooManyDigits digits => (Json.ReadError.tooManyDigits digits).message
  | unwritable reason => reason.message
  | unusable _ => "Unusable document"

end ImportError

namespace ImportSource

/-- The error for a text that cannot be read. -/
def ofReadError : Json.ReadError → ImportError
  | .malformed fault line column position => .notJson fault line column position
  | .tooManyDigits digits => .tooManyDigits digits

/-- The value of a text. -/
def readText (text : String) : Except ImportError Json := (Json.read text).mapError ofReadError

/-- The value of a source. A value that is a text is read like one. -/
def toJson : ImportSource → Except ImportError Json
  | .text content => readText content
  | .value (.str content) => readText content
  | .value content => .ok content
  | .bytes content =>
    match Encoding.decodeGuessed content with
    | .ok decoded => (Json.readDecoded decoded).mapError ofReadError
    | .error fault => .error (.notUnicode fault)

/-- The members of the object that holds the nodes: of the object itself, or else of its member
`graph`. -/
def graphMembers (members : Json.Members) : Except ImportError Json.Members :=
  -- An envelope is opened only when the object has no nodes of its own.
  let chosen : Json.Members := match members.contains "nodes", members.getOrNull "graph" with
    | false, .obj inner => inner
    | _, _ => members
  if chosen.contains "nodes" then .ok chosen else .error .noNodes

/-- The members of the object in a value that holds the nodes. -/
def graph : Json → Except ImportError Json.Members
  | .obj members => graphMembers members
  | _ => .error .notObject

/-- The checked document of a source. -/
def payload (source : ImportSource) : Except ImportError Payload := do
  let members ← graph (← source.toJson)
  (Payload.shape (.obj members)).mapError .malformed

/-- The document of a source, ready for editing. -/
def document (source : ImportSource) : Except ImportError Document := do
  let payload ← source.payload
  let saved ← payload.written.mapError .unwritable
  (Document.ofJson saved).mapError .unusable

end ImportSource

end Flowchart
