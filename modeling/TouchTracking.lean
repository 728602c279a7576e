import TouchTracking.Binary.Double
import TouchTracking.Binary.Format
import TouchTracking.Binary.Single
import TouchTracking.Blob.Basic
import TouchTracking.Blob.Detector
import TouchTracking.Blob.Merge
import TouchTracking.Blob.Report
import TouchTracking.CommandLine.Daemon
import TouchTracking.CommandLine.Options
import TouchTracking.Config.Build
import TouchTracking.Config.File
import TouchTracking.Config.Settings
import TouchTracking.Data.Basic
import TouchTracking.Decimal.Layout
import TouchTracking.Decimal.Numeral
import TouchTracking.Decimal.Shortest
import TouchTracking.Failure
import TouchTracking.Feed.Basic
import TouchTracking.Feed.Debug
import TouchTracking.Feed.Dispatch
import TouchTracking.Feed.Follower
import TouchTracking.Json.Number
import TouchTracking.Json.Printer
import TouchTracking.Json.Reader
import TouchTracking.Json.Value
import TouchTracking.Main
import TouchTracking.Pipeline.Basic
import TouchTracking.Pipeline.Bench
import TouchTracking.Proofs.Boxes
import TouchTracking.Proofs.Building
import TouchTracking.Proofs.Contents
import TouchTracking.Proofs.Detection
import TouchTracking.Proofs.Frame
import TouchTracking.Proofs.Identity
import TouchTracking.Proofs.Pixels
import TouchTracking.Proofs.Probes
import TouchTracking.Proofs.Rectangles
import TouchTracking.Proofs.Runs
import TouchTracking.Proofs.Seeds
import TouchTracking.Proofs.Separation
import TouchTracking.Proofs.Slots
import TouchTracking.Proofs.StageRuns
import TouchTracking.Proofs.Sweep
import TouchTracking.Proofs.TouchHistory
import TouchTracking.Property.Bag
import TouchTracking.Property.Basic
import TouchTracking.Property.Value
import TouchTracking.Random.ChaCha
import TouchTracking.Random.Draws
import TouchTracking.Raster.Image
import TouchTracking.Raster.Mask
import TouchTracking.Squares.Motion
import TouchTracking.Squares.Settings
import TouchTracking.Squares.Source
import TouchTracking.Stage.BlobTracker
import TouchTracking.Stage.Builtin
import TouchTracking.Stage.Core
import TouchTracking.Stage.Fabric
import TouchTracking.Stage.Factory
import TouchTracking.Stage.Lifecycle
import TouchTracking.Stage.Report
import TouchTracking.Stage.Source
import TouchTracking.Stage.Stats
import TouchTracking.Stage.Wiring
import TouchTracking.Text.Blank
import TouchTracking.Text.CaseRanges
import TouchTracking.Text.HiddenRanges
import TouchTracking.Text.LowerCase
import TouchTracking.Text.Printable
import TouchTracking.Text.Quoted
import TouchTracking.Toml.Reader
import TouchTracking.Toml.Scalar
import TouchTracking.Toml.Table
import TouchTracking.Tracking.Arena
import TouchTracking.Tracking.Outline
import TouchTracking.Tracking.Touch
import TouchTracking.Tracking.Tracker
import TouchTracking.Proofs.Assignment
import TouchTracking.Proofs.Connections
import TouchTracking.Proofs.Merging
import TouchTracking.Proofs.Drift
import TouchTracking.Proofs.Extents
import TouchTracking.Proofs.Following
import TouchTracking.Proofs.Accounting
import TouchTracking.Proofs.Cascade
import TouchTracking.Proofs.Delivery
import TouchTracking.Proofs.Attention
import TouchTracking.Proofs.Wakeups
import TouchTracking.Proofs.Handling
import TouchTracking.Proofs.Benches
import TouchTracking.Proofs.Ticks
import TouchTracking.Proofs.Fading
import TouchTracking.Proofs.Reordering
import TouchTracking.Proofs.Bags
import TouchTracking.Proofs.Names
import TouchTracking.Proofs.Removal
import TouchTracking.Proofs.Loading
import TouchTracking.Proofs.Signs
import TouchTracking.Proofs.Deployment
import TouchTracking.Proofs.Agreement
import TouchTracking.Proofs.Parameters
import TouchTracking.Proofs.Succession
import TouchTracking.Proofs.Maturity
import TouchTracking.Proofs.Continuity
import TouchTracking.Proofs.Outlets
import TouchTracking.Proofs.Workload
import TouchTracking.Proofs.Lifecycles
import TouchTracking.Proofs.Bookkeeping
import TouchTracking.Proofs.Naming
import TouchTracking.Proofs.Identifiers
import TouchTracking.Proofs.Publication
import TouchTracking.Proofs.Shares
import TouchTracking.Proofs.Framing
import TouchTracking.Proofs.Layers
import TouchTracking.Proofs.Rewiring
import TouchTracking.Proofs.Custody
import TouchTracking.Proofs.Grouping
import TouchTracking.Proofs.Regions
import TouchTracking.Proofs.Coverage
import TouchTracking.Proofs.Footage
import TouchTracking.Proofs.Placement
import TouchTracking.Proofs.Pictures
import TouchTracking.Proofs.Reopening
import TouchTracking.Proofs.Seeding
import TouchTracking.Proofs.Exactness
import TouchTracking.Proofs.Writes
import TouchTracking.Proofs.Bounds
import TouchTracking.Proofs.Spelling
import TouchTracking.Proofs.Blanks
import TouchTracking.Proofs.Refusals
import TouchTracking.Proofs.Captures
import TouchTracking.Proofs.Waits
import TouchTracking.Proofs.Absorption
import TouchTracking.Proofs.Addressing
import TouchTracking.Proofs.Membership
