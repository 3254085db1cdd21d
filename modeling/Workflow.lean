import Workflow.Canvas.DoubleClick
import Workflow.Canvas.Gesture
import Workflow.Canvas.Wiring
import Workflow.Command.Line
import Workflow.Command.Run
import Workflow.Decimal.Shortest
import Workflow.Decimal.Style
import Workflow.Exchange.Document
import Workflow.Exchange.File
import Workflow.Exchange.Import
import Workflow.Exchange.Palette
import Workflow.Exchange.Settings
import Workflow.Exchange.Timestamp
import Workflow.Graph.Adjacency
import Workflow.Graph.Edge
import Workflow.Graph.Identifier
import Workflow.Graph.Node
import Workflow.Graph.Store
import Workflow.Graph.Walk
import Workflow.Json.Fault
import Workflow.Json.Numeral
import Workflow.Json.Print
import Workflow.Json.Quoted
import Workflow.Json.Read
import Workflow.Json.Source
import Workflow.Json.Text
import Workflow.Json.Token
import Workflow.Json.Value
import Workflow.Layout
import Workflow.Main
import Workflow.Palette.Browser
import Workflow.Palette.Catalog
import Workflow.Palette.Entry
import Workflow.Plane.Curve
import Workflow.Plane.Point
import Workflow.Plane.Scalar
import Workflow.Plane.Viewport
import Workflow.Proofs.Accounts
import Workflow.Proofs.Aliases
import Workflow.Proofs.Bare
import Workflow.Proofs.Chains
import Workflow.Proofs.Changes
import Workflow.Proofs.Codec
import Workflow.Proofs.Columns
import Workflow.Proofs.Confirmations
import Workflow.Proofs.Cycles
import Workflow.Proofs.Distances
import Workflow.Proofs.Documents
import Workflow.Proofs.Doubles
import Workflow.Proofs.Drags
import Workflow.Proofs.Entrances
import Workflow.Proofs.Gestures
import Workflow.Proofs.Grants
import Workflow.Proofs.Issues
import Workflow.Proofs.Numbering
import Workflow.Proofs.Numerals
import Workflow.Proofs.Objections
import Workflow.Proofs.Outlines
import Workflow.Proofs.Places
import Workflow.Proofs.Preorder
import Workflow.Proofs.References
import Workflow.Proofs.Refusals
import Workflow.Proofs.Reordering
import Workflow.Proofs.Restarts
import Workflow.Proofs.RoundTrip
import Workflow.Proofs.Runs
import Workflow.Proofs.Search
import Workflow.Proofs.Sessions
import Workflow.Proofs.Sound
import Workflow.Proofs.Spots
import Workflow.Proofs.StepLists
import Workflow.Proofs.Strictness
import Workflow.Proofs.Traversals
import Workflow.Proofs.Turns
import Workflow.Proofs.Undoing
import Workflow.Proofs.Upgrades
import Workflow.Proofs.Views
import Workflow.Proofs.Walks
import Workflow.Proofs.Wires
import Workflow.Session
import Workflow.Session.Action
import Workflow.Settings
import Workflow.Text
import Workflow.Validation
