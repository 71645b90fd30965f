import Lifecycle.Frozen
import Lifecycle.Log.Entry
import Lifecycle.Owner
import Lifecycle.Store.Apply
import Lifecycle.Store.RealText
import Lifecycle.Validation
import Lifecycle.Proofs.Collection
import Lifecycle.Proofs.Expansion.Gather
import Lifecycle.Proofs.Expansion.Demand
import Lifecycle.Proofs.Expansion.Flat
import Lifecycle.Proofs.Expansion.Dual
import Lifecycle.Proofs.Expansion.Apart
import Lifecycle.Proofs.Expansion.Pairs
import Lifecycle.Proofs.Expansion.Membership
import Lifecycle.Proofs.Expansion.Faults
import Lifecycle.Proofs.Expansion.Unknown
import Lifecycle.Proofs.Store.Cell
import Lifecycle.Proofs.Store.Row
import Lifecycle.Proofs.Store.Write
import Lifecycle.Proofs.Store.Apply
import Lifecycle.Proofs.Store.Guard
import Lifecycle.Proofs.Store.Update
import Lifecycle.Proofs.Store.History
import Lifecycle.Proofs.Store.Replay
import Lifecycle.Proofs.Store.Serial
import Lifecycle.Proofs.Validation
import Lifecycle.Proofs.Changeset
import Lifecycle.Proofs.Verdict
import Lifecycle.Proofs.Store.Pipeline
import Lifecycle.Proofs.Store.Create
import Lifecycle.Proofs.Expansion.Composition
import Lifecycle.Proofs.Fields
import Lifecycle.Proofs.Owner
import Lifecycle.Proofs.Routes
import Lifecycle.Proofs.Watched
import Lifecycle.Proofs.Steady
import Lifecycle.Proofs.Course
import Lifecycle.Proofs.Messages
import Lifecycle.Proofs.FieldCheck
import Lifecycle.Proofs.Accumulation
import Lifecycle.Proofs.Value.KeyOrder
import Lifecycle.Proofs.Expansion.Cover
import Lifecycle.Proofs.Expansion.Redeclared
import Lifecycle.Proofs.Value.Member
import Lifecycle.Proofs.Expansion.Reordering
import Lifecycle.Proofs.Settings.Overlay
import Lifecycle.Proofs.Settings.Variables
import Lifecycle.Proofs.Document.Json
import Lifecycle.Proofs.Settings.Section
import Lifecycle.Proofs.Settings.Priority
import Lifecycle.Proofs.Store.Match
import Lifecycle.Proofs.Store.Trace
import Lifecycle.Proofs.Store.Frame
import Lifecycle.Proofs.Declaration
import Lifecycle.Proofs.Expansion.Recursion
import Lifecycle.Proofs.Expansion.Gate
import Lifecycle.Proofs.Template
import Lifecycle.Proofs.Difference
import Lifecycle.Proofs.Alternates
import Lifecycle.Proofs.Resolution
import Lifecycle.Proofs.Distinct
import Lifecycle.Proofs.Settings.Discovery
import Lifecycle.Proofs.Settings.Reader
import Lifecycle.Proofs.Settings.Snapshot
import Lifecycle.Proofs.Log.Routing
