import SpatialWorkload.Association
import SpatialWorkload.CommandLine.Arguments
import SpatialWorkload.CommandLine.Execution
import SpatialWorkload.CommandLine.Report
import SpatialWorkload.Config
import SpatialWorkload.Config.Error
import SpatialWorkload.Config.Settings
import SpatialWorkload.Dataset
import SpatialWorkload.Dataset.Record
import SpatialWorkload.Decimal.Binary
import SpatialWorkload.Decimal.Literal
import SpatialWorkload.Decimal.Shortest
import SpatialWorkload.Decimal.Significant
import SpatialWorkload.Document.Position
import SpatialWorkload.Document.Value
import SpatialWorkload.Draw.Choice
import SpatialWorkload.Draw.Exponential
import SpatialWorkload.Draw.Key
import SpatialWorkload.Draw.Uniform
import SpatialWorkload.Draw.Words
import SpatialWorkload.Draw.ZigguratTable
import SpatialWorkload.Duration
import SpatialWorkload.Failure
import SpatialWorkload.GeoSet.Address
import SpatialWorkload.GeoSet.Request
import SpatialWorkload.GeoSet.Session
import SpatialWorkload.Json.Layout
import SpatialWorkload.Json.Number
import SpatialWorkload.Json.Records
import SpatialWorkload.Json.Text
import SpatialWorkload.Json.Value
import SpatialWorkload.Main
import SpatialWorkload.Position
import SpatialWorkload.Proofs.CommandLine.Complete
import SpatialWorkload.Proofs.CommandLine.Gathered
import SpatialWorkload.Proofs.CommandLine.Outcome
import SpatialWorkload.Proofs.Config.InsertRange
import SpatialWorkload.Proofs.Config.Sound
import SpatialWorkload.Proofs.Dataset
import SpatialWorkload.Proofs.Dataset.Lenient
import SpatialWorkload.Proofs.Dataset.Limit
import SpatialWorkload.Proofs.Dataset.Lines
import SpatialWorkload.Proofs.Dataset.Placed
import SpatialWorkload.Proofs.Dataset.Records
import SpatialWorkload.Proofs.Dataset.Rewritten
import SpatialWorkload.Proofs.Dataset.Texts
import SpatialWorkload.Proofs.Document
import SpatialWorkload.Proofs.Draw.Choice
import SpatialWorkload.Proofs.Draw.Key
import SpatialWorkload.Proofs.Draw.Overshoot
import SpatialWorkload.Proofs.Draw.Pause
import SpatialWorkload.Proofs.Draw.Truncated
import SpatialWorkload.Proofs.Draw.WayBack
import SpatialWorkload.Proofs.Duration
import SpatialWorkload.Proofs.GeoSet.Address
import SpatialWorkload.Proofs.GeoSet.Alone
import SpatialWorkload.Proofs.GeoSet.Conversation
import SpatialWorkload.Proofs.GeoSet.Enclosed
import SpatialWorkload.Proofs.GeoSet.Exact
import SpatialWorkload.Proofs.GeoSet.Guard
import SpatialWorkload.Proofs.GeoSet.Net
import SpatialWorkload.Proofs.GeoSet.Server
import SpatialWorkload.Proofs.GeoSet.Stamps
import SpatialWorkload.Proofs.GeoSet.Widened
import SpatialWorkload.Proofs.Place
import SpatialWorkload.Proofs.Properties
import SpatialWorkload.Proofs.Ring.Antimeridian
import SpatialWorkload.Proofs.Ring.Bounds
import SpatialWorkload.Proofs.Ring.Centre
import SpatialWorkload.Proofs.Ring.Circle
import SpatialWorkload.Proofs.Ring.Closing
import SpatialWorkload.Proofs.Ring.Convex
import SpatialWorkload.Proofs.Ring.Corner
import SpatialWorkload.Proofs.Ring.Edges
import SpatialWorkload.Proofs.Ring.Hull
import SpatialWorkload.Proofs.Ring.Redrawn
import SpatialWorkload.Proofs.Ring.Square
import SpatialWorkload.Proofs.Ring.Trapezoid
import SpatialWorkload.Proofs.Ring.Winding
import SpatialWorkload.Proofs.Run.Completion
import SpatialWorkload.Proofs.Run.Counted
import SpatialWorkload.Proofs.Run.Cursor
import SpatialWorkload.Proofs.Run.Filled
import SpatialWorkload.Proofs.Run.Floor
import SpatialWorkload.Proofs.Run.Gate
import SpatialWorkload.Proofs.Run.Handed
import SpatialWorkload.Proofs.Run.Ledger
import SpatialWorkload.Proofs.Run.Load
import SpatialWorkload.Proofs.Run.Loaded
import SpatialWorkload.Proofs.Run.Mirror
import SpatialWorkload.Proofs.Run.Notices
import SpatialWorkload.Proofs.Run.OneScan
import SpatialWorkload.Proofs.Run.Phase
import SpatialWorkload.Proofs.Run.Prepare
import SpatialWorkload.Proofs.Run.Range
import SpatialWorkload.Proofs.Run.Received
import SpatialWorkload.Proofs.Run.Reference
import SpatialWorkload.Proofs.Run.Report
import SpatialWorkload.Proofs.Run.Reset
import SpatialWorkload.Proofs.Run.Retry
import SpatialWorkload.Proofs.Run.Shares
import SpatialWorkload.Proofs.Run.Standing
import SpatialWorkload.Proofs.Run.Stride
import SpatialWorkload.Proofs.Run.Trail
import SpatialWorkload.Proofs.Run.Transactions
import SpatialWorkload.Proofs.Run.Watermark
import SpatialWorkload.Proofs.Scalar.Conversion
import SpatialWorkload.Proofs.Scalar.Double
import SpatialWorkload.Proofs.Scalar.Exact
import SpatialWorkload.Proofs.Scalar.Order
import SpatialWorkload.Proofs.Scalar.Real
import SpatialWorkload.Proofs.Scalar.Rounding
import SpatialWorkload.Proofs.Scalar.Signed
import SpatialWorkload.Proofs.Source
import SpatialWorkload.Proofs.Sphere.BoundingBox
import SpatialWorkload.Proofs.Sphere.Cap
import SpatialWorkload.Proofs.Sphere.Direction
import SpatialWorkload.Proofs.Sphere.Distance
import SpatialWorkload.Proofs.Statement.Names
import SpatialWorkload.Proofs.Statement.Tokens
import SpatialWorkload.Proofs.Store.Contents
import SpatialWorkload.Proofs.Store.Linear
import SpatialWorkload.Proofs.Store.Nearest
import SpatialWorkload.Proofs.Store.SharedCache
import SpatialWorkload.Proofs.Store.Table
import SpatialWorkload.Proofs.Text.Lines
import SpatialWorkload.Proofs.Text.Trim
import SpatialWorkload.Proofs.Timestamp.Calendar
import SpatialWorkload.Proofs.Timestamp.Written
import SpatialWorkload.Proofs.Word
import SpatialWorkload.Properties
import SpatialWorkload.Properties.Typed
import SpatialWorkload.Ring.Basic
import SpatialWorkload.Ring.Square
import SpatialWorkload.Ring.Winding
import SpatialWorkload.Run.Cursor
import SpatialWorkload.Run.Phase
import SpatialWorkload.Run.ResetGate
import SpatialWorkload.Run.Tally
import SpatialWorkload.Run.Watermark
import SpatialWorkload.Run.Worker
import SpatialWorkload.Run.Workload
import SpatialWorkload.Scalar
import SpatialWorkload.Scalar.Double
import SpatialWorkload.Scalar.Elementary
import SpatialWorkload.Source
import SpatialWorkload.Sphere.BoundingBox
import SpatialWorkload.Sphere.Distance
import SpatialWorkload.Statement.Cypher
import SpatialWorkload.Statement.Sql
import SpatialWorkload.Statement.Template
import SpatialWorkload.Store.Basic
import SpatialWorkload.Store.Catalogue
import SpatialWorkload.Store.Memory
import SpatialWorkload.Store.Rehearsal
import SpatialWorkload.Store.Statements
import SpatialWorkload.Text.Blank
import SpatialWorkload.Text.Quoted
import SpatialWorkload.Text.Unprintable
import SpatialWorkload.Timestamp
import SpatialWorkload.Timestamp.Epoch
import SpatialWorkload.Timestamp.Layout
