import Slumber.ApiServer.Connection
import Slumber.ApiServer.Discovery
import Slumber.ApiServer.Request
import Slumber.ApiServer.Response
import Slumber.ApiServer.Server
import Slumber.ApiServer.Version
import Slumber.Backoff
import Slumber.Cluster.Labels
import Slumber.Cluster.Store
import Slumber.Config.Basic
import Slumber.Config.SocketAddress
import Slumber.Controller.Reconcile
import Slumber.Controller.StatusUpdate
import Slumber.Controller.Tick
import Slumber.Decimal.Binary
import Slumber.Decimal.Reading
import Slumber.Decimal.Shortest
import Slumber.Decimal.Whole
import Slumber.Expression.Comparison
import Slumber.Expression.Evaluator
import Slumber.Expression.Fault
import Slumber.Expression.Grammar
import Slumber.Expression.Interpreter
import Slumber.Expression.Lexer
import Slumber.Expression.Path
import Slumber.Expression.Quantity
import Slumber.Expression.Token
import Slumber.Expression.Tree
import Slumber.Expression.Value
import Slumber.FiniteMap
import Slumber.Json.Basic
import Slumber.Json.Merge
import Slumber.Json.Patch
import Slumber.Json.Pointer
import Slumber.Json.Printer
import Slumber.Json.Reader
import Slumber.Json.Record
import Slumber.Main
import Slumber.Metrics.Basic
import Slumber.Metrics.Endpoint
import Slumber.Metrics.Exposition
import Slumber.Overflow
import Slumber.Pattern.Bracket
import Slumber.Pattern.CaseFolding
import Slumber.Pattern.Categories
import Slumber.Pattern.CharSet
import Slumber.Pattern.Escape
import Slumber.Pattern.Flags
import Slumber.Pattern.Property
import Slumber.Pattern.Reader
import Slumber.Pattern.Size
import Slumber.Pattern.Tree
import Slumber.Proofs.ApiServer.Discovery
import Slumber.Proofs.ApiServer.Installation
import Slumber.Proofs.Backoff
import Slumber.Proofs.Cluster.Keyed
import Slumber.Proofs.Config
import Slumber.Proofs.Controller.Accounting
import Slumber.Proofs.Controller.Chain
import Slumber.Proofs.Controller.Debounce
import Slumber.Proofs.Controller.Deletions
import Slumber.Proofs.Controller.FromZero
import Slumber.Proofs.Controller.Gates
import Slumber.Proofs.Controller.Healing
import Slumber.Proofs.Controller.Histories
import Slumber.Proofs.Controller.Looks
import Slumber.Proofs.Controller.Retries
import Slumber.Proofs.Controller.Steps
import Slumber.Proofs.Controller.Unattended
import Slumber.Proofs.Controller.Waking
import Slumber.Proofs.Decimal.Whole
import Slumber.Proofs.Expression.Addressing
import Slumber.Proofs.Expression.Agreement
import Slumber.Proofs.Expression.Derivation
import Slumber.Proofs.Expression.Dualities
import Slumber.Proofs.Expression.Lexemes
import Slumber.Proofs.Expression.Malformed
import Slumber.Proofs.Expression.Numerals
import Slumber.Proofs.Expression.Overflow
import Slumber.Proofs.Expression.Parsing
import Slumber.Proofs.Expression.Paths
import Slumber.Proofs.Expression.Placeholders
import Slumber.Proofs.Expression.Reading
import Slumber.Proofs.Expression.Scanning
import Slumber.Proofs.Json.Edits
import Slumber.Proofs.Json.Pointers
import Slumber.Proofs.Json.Records
import Slumber.Proofs.Json.StrategicMerge
import Slumber.Proofs.Resource.Keys
import Slumber.Proofs.Schedule.Boundaries
import Slumber.Proofs.Schedule.ClockChanges
import Slumber.Proofs.Schedule.Decisions
import Slumber.Proofs.Schedule.Exactness
import Slumber.Proofs.Schedule.LocalTimes
import Slumber.Proofs.Schedule.TimesOfDay
import Slumber.Proofs.Selection
import Slumber.Proofs.Selection.Exactness
import Slumber.Proofs.Selection.Labels
import Slumber.Proofs.Selection.Likeness
import Slumber.Proofs.Spec.Persistence
import Slumber.Proofs.Status.Merging
import Slumber.Proofs.Status.Order
import Slumber.Proofs.Status.Persistence
import Slumber.Proofs.Status.Records
import Slumber.Proofs.Status.Reloading
import Slumber.Proofs.Status.Retention
import Slumber.Proofs.Text.Cutting
import Slumber.Proofs.Text.Letters
import Slumber.Proofs.Time.ClockRules
import Slumber.Proofs.Time.Periods
import Slumber.Proofs.Transition.Caching
import Slumber.Proofs.Transition.Containers
import Slumber.Proofs.Transition.Counts
import Slumber.Proofs.Transition.Deleted
import Slumber.Proofs.Transition.Dominance
import Slumber.Proofs.Transition.Effects
import Slumber.Proofs.Transition.Exclusions
import Slumber.Proofs.Transition.Frame
import Slumber.Proofs.Transition.Groups
import Slumber.Proofs.Transition.Idempotence
import Slumber.Proofs.Transition.Interruption
import Slumber.Proofs.Transition.Keeping
import Slumber.Proofs.Transition.Overlaps
import Slumber.Proofs.Transition.Patches
import Slumber.Proofs.Transition.Recovery
import Slumber.Proofs.Transition.Refusals
import Slumber.Proofs.Transition.Resizing
import Slumber.Proofs.Transition.Runs
import Slumber.Proofs.Transition.Truthful
import Slumber.Proofs.Transition.Waking
import Slumber.Resource.Client
import Slumber.Resource.Key
import Slumber.Resource.Kind
import Slumber.Resource.Manifest
import Slumber.Resource.Metadata
import Slumber.Schedule.Clock
import Slumber.Schedule.Fault
import Slumber.Schedule.Weekday
import Slumber.Schedule.Window
import Slumber.Selection
import Slumber.Spec.Action
import Slumber.Spec.Basic
import Slumber.Spec.Definition
import Slumber.Spec.Document
import Slumber.Spec.Schema
import Slumber.Status.Basic
import Slumber.Status.Document
import Slumber.Status.History
import Slumber.Text.Blank
import Slumber.Text.CodePoints
import Slumber.Text.FormEncoded
import Slumber.Text.Letters
import Slumber.Text.Quoted
import Slumber.Text.Words
import Slumber.Time.Calendar
import Slumber.Time.ClockHistory
import Slumber.Time.Fields
import Slumber.Time.Format
import Slumber.Time.Instant
import Slumber.Time.Layout
import Slumber.Time.Period
import Slumber.Time.Reading
import Slumber.Time.Zone
import Slumber.Time.ZoneTable
import Slumber.Transition.Autoscaler
import Slumber.Transition.Basic
import Slumber.Transition.Deletion
import Slumber.Transition.Engine
import Slumber.Transition.Replicas
import Slumber.Transition.Resources
import Slumber.Transition.Restore
