import Flowchart.Document.Session
import Flowchart.Editor.Session
import Flowchart.Main
import Flowchart.Relation.Rehearsal
import Flowchart.Relation.Server
import Flowchart.Proofs.Document.Connection
import Flowchart.Proofs.Document.Additions
import Flowchart.Proofs.Document.Linked
import Flowchart.Proofs.Editor.Loops
import Flowchart.Proofs.Export.Portable
import Flowchart.Proofs.Payload.Filled
import Flowchart.Proofs.Logic.Reach
import Flowchart.Proofs.Logic.Connections
import Flowchart.Proofs.Outcome
import Flowchart.Proofs.Payload.Replay
import Flowchart.Proofs.Relation.Flight
import Flowchart.Proofs.Form.Fetch
import Flowchart.Proofs.Relation.Live
import Flowchart.Proofs.Relation.Address
import Flowchart.Proofs.Document.View
import Flowchart.Proofs.Editor.Import
import Flowchart.Proofs.Text.Utf8
import Flowchart.Proofs.Text.Ascii
import Flowchart.Proofs.Text.Percent
import Flowchart.Proofs.Json.Written
import Flowchart.Proofs.Files
import Flowchart.Proofs.Payload.Loadable
import Flowchart.Proofs.Editor.Drawing
import Flowchart.Proofs.Editor.Project
import Flowchart.Proofs.Document.InPlace
import Flowchart.Proofs.Document.Atomic
import Flowchart.Proofs.Document.Batch
import Flowchart.Proofs.Logic.Extension
import Flowchart.Proofs.Command.Gates
import Flowchart.Proofs.Logic.Dependence
import Flowchart.Proofs.Logic.Removal
import Flowchart.Proofs.Completeness
import Flowchart.Proofs.Relation.Retry
import Flowchart.Proofs.Relation.Placeholder
import Flowchart.Proofs.Form.Condition
import Flowchart.Proofs.Form.Step
import Flowchart.Proofs.Form.Fields
import Flowchart.Proofs.Form.Offered
import Flowchart.Proofs.Form.Untouched
import Flowchart.Proofs.Editor.Forms
import Flowchart.Proofs.Editor.Overlap
import Flowchart.Proofs.Editor.Offered
import Flowchart.Proofs.Editor.Typing
import Flowchart.Proofs.Editor.Untouched
import Flowchart.Proofs.Schema.Catalog
import Flowchart.Proofs.Property
import Flowchart.Proofs.Logic.Written
