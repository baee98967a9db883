import Flowchart.Document

/-! The rule that decides whether a proposed connection may be made. -/

namespace Flowchart

/-- A connection proposed between two ports; a port is absent when none was found. -/
structure Proposal where
  source : Json
  sourcePort : Option Port
  target : Json
  targetPort : Option Port
deriving DecidableEq

namespace Proposal

/-- The two ends of the edge that a proposal comes to. -/
def ends (proposal : Proposal) (source target : Port) : List Json :=
  [proposal.source, source.id, proposal.target, target.id].map Json.core

/-- Outputs feed inputs, no connection is made twice, and a node may be kept from feeding itself.
Only the groups of the ports count, never the types of the nodes. -/
def isAllowed (proposal : Proposal) (edges : List Edge) (allowSelfLoops : Bool) : Bool :=
  -- A port that was not found can take no part in a connection.
  match proposal.sourcePort, proposal.targetPort with
  | some source, some target =>
    source.group != .input && target.group == .input &&
      !(edges.any fun edge => edge.ends == proposal.ends source target) &&
      (allowSelfLoops || !proposal.source.equals proposal.target)
  | _, _ => false

end Proposal

end Flowchart
