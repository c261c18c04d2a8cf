import Caseflow.SortedMap
import Caseflow.Text.Blank
import Caseflow.Text.Split
import Caseflow.Text.Numeral
import Caseflow.Decimal.Binary64
import Caseflow.Decimal.Shortest
import Caseflow.Json.Value
import Caseflow.Json.Writer
import Caseflow.Json.Document
import Caseflow.Json.Token
import Caseflow.Json.Reader
import Caseflow.Json.Decode
import Caseflow.Calendar.Instant
import Caseflow.Calendar.Timestamp
import Caseflow.Blueprint.Condition
import Caseflow.Blueprint.Basic
import Caseflow.Blueprint.Validation
import Caseflow.Blueprint.Assembly
import Caseflow.Blueprint.Codec
import Caseflow.Entry.Basic
import Caseflow.Entry.Codec
import Caseflow.Store.Query
import Caseflow.Store.Basic
import Caseflow.Settings
import Caseflow.Failure
import Caseflow.Scope
import Caseflow.Template
import Caseflow.Interpolation
import Caseflow.Run
import Caseflow.World.Request
import Caseflow.World.Basic
import Caseflow.Extension.Basic
import Caseflow.Extension.Builtin
import Caseflow.Engine.Toolkit
import Caseflow.Engine.Turn
import Caseflow.Engine.Lifecycle
import Caseflow.Engine.DueDate
import Caseflow.Engine.Transition
import Caseflow.Engine.Catalog
import Caseflow.Engine.Selection
import Caseflow.Engine.Basic
import Caseflow.Proofs.Contract
import Caseflow.Proofs.Requests
import Caseflow.Proofs.StoreViews
import Caseflow.Proofs.Fitting
import Caseflow.Proofs.Lineage
import Caseflow.Proofs.BuiltinHooks
import Caseflow.Proofs.Calls
import Caseflow.Proofs.Rollback
import Caseflow.Proofs.Arrivals
import Caseflow.Proofs.BarrierRuns
import Caseflow.Proofs.Ledgers
import Caseflow.Proofs.Departures
import Caseflow.Proofs.Outcomes
import Caseflow.Proofs.FittingCalls
import Caseflow.Proofs.Resting
import Caseflow.Proofs.Rounds
import Caseflow.Proofs.SharedRuns
import Caseflow.Proofs.DeadEnds
import Caseflow.Proofs.Listing
import Caseflow.Proofs.ChainLimits
import Caseflow.Proofs.Isolation
import Caseflow.Proofs.WaitingJoins
import Caseflow.Proofs.Bookkeeping
import Caseflow.Proofs.Endurance
import Caseflow.Proofs.Upholding
import Caseflow.Proofs.Histories
import Caseflow.Proofs.Closings
import Caseflow.Proofs.FailedStarts
import Caseflow.Proofs.Arrangements
import Caseflow.Proofs.Successors
import Caseflow.Proofs.Gatherings
import Caseflow.Proofs.Forecasts
import Caseflow.Proofs.Maps
import Caseflow.Proofs.Readings
import Caseflow.Proofs.Documents
import Caseflow.Proofs.Edits
import Caseflow.Proofs.Sweeps
import Caseflow.Proofs.Finishes
import Caseflow.Proofs.Stages
import Caseflow.Proofs.Checkpoints
import Caseflow.Proofs.HookCalls
import Caseflow.Proofs.HookOrder
import Caseflow.Proofs.Visits
import Caseflow.Proofs.Duality
import Caseflow.Proofs.Decompositions
import Caseflow.Proofs.References
import Caseflow.Proofs.Renderings
import Caseflow.Proofs.ShortestDecimals
import Caseflow.Proofs.Substitution
import Caseflow.Proofs.ReservedNames
import Caseflow.Proofs.Defects
import Caseflow.Proofs.Offsets
import Caseflow.Proofs.Queries
