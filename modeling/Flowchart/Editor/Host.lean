import Flowchart.Json

/-! The program an editor lives in: what it is told, and how much of it it listens to. -/

namespace Flowchart

/-- How a notice is meant. -/
inductive NoticeLevel where
  | info
  | success
  | warning
deriving DecidableEq

/-- The name of a level. -/
def NoticeLevel.name : NoticeLevel → String
  | .info => "info"
  | .success => "success"
  | .warning => "warning"

/-- What a host is told. -/
inductive HostCall where
  /-- A step is to be edited, which the host does in a way of its own. -/
  | edit (node type : Json) (config : Json.Members)
  | notice (title message : String) (level : NoticeLevel)
  /-- A node is to be brought to attention. -/
  | focus (node : Json)
  /-- The user is asked for consent. -/
  | confirm (title message : String)
deriving DecidableEq

/-- A host. Every host edits steps; one that does nothing else gives its consent to everything. -/
structure Host where
  editsOnly : Bool
  consents : Bool
deriving DecidableEq

namespace Host

/-- Whether a call comes through to the host. -/
def hears (host : Host) : HostCall → Bool
  | .edit _ _ _ => true
  | _ => !host.editsOnly

/-- Whether the user gives consent when the host asks. -/
def grants (host : Host) : Bool := host.editsOnly || host.consents

end Host

end Flowchart
