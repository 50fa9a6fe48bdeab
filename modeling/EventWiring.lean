import EventWiring.Api.Request
import EventWiring.Api.Response
import EventWiring.Api.Session
import EventWiring.Api.Target
import EventWiring.Condition
import EventWiring.Controller
import EventWiring.Duration
import EventWiring.Error
import EventWiring.Event
import EventWiring.Finalizer
import EventWiring.Json.Binary64
import EventWiring.Json.Decoder
import EventWiring.Json.Equality
import EventWiring.Json.Failure
import EventWiring.Json.MergePatch
import EventWiring.Json.Printer
import EventWiring.Json.Reader
import EventWiring.Json.Record
import EventWiring.Json.Value
import EventWiring.Json.Yaml
import EventWiring.Key
import EventWiring.Main
import EventWiring.Manifest.Resources
import EventWiring.Manifest.Schema
import EventWiring.Notification.Job
import EventWiring.Notification.Phase
import EventWiring.Notification.Report
import EventWiring.Ownership
import EventWiring.Pass.Basic
import EventWiring.Pass.Converge
import EventWiring.Pass.Notification
import EventWiring.Pass.Reconcile
import EventWiring.Pass.Teardown
import EventWiring.Program
import EventWiring.Resource.Delivery
import EventWiring.Resource.Dependent
import EventWiring.Resource.Job
import EventWiring.Resource.Metadata
import EventWiring.Resource.PullSubscription
import EventWiring.Resource.Scheduler
import EventWiring.Resource.Timestamp
import EventWiring.Resource.Topic
import EventWiring.Settings.Arguments
import EventWiring.Settings.Basic
import EventWiring.Text.Blank
import EventWiring.Text.CharSet
import EventWiring.Text.LowerCase
import EventWiring.Text.Numeral
import EventWiring.Text.Plain
import EventWiring.Text.Printable
import EventWiring.Text.Quoted
import EventWiring.Text.Split
import EventWiring.Text.Table
import EventWiring.Text.TextMap
import EventWiring.Uri.Address
import EventWiring.Uri.Domain
import EventWiring.Uri.Domain.Composition
import EventWiring.Uri.Domain.Direction
import EventWiring.Uri.Domain.Label
import EventWiring.Uri.Domain.Mapping
import EventWiring.Uri.Domain.Punycode
import EventWiring.Uri.Percent
import EventWiring.Uri.Validity
import EventWiring.World.Change
import EventWiring.World.Store
import EventWiring.World.Stores
import EventWiring.World.World
import EventWiring.Proofs.Condition.Revision
import EventWiring.Proofs.Condition.Verdict
import EventWiring.Proofs.Finalizer
import EventWiring.Proofs.Pass.Again
import EventWiring.Proofs.Pass.Dismantled
import EventWiring.Proofs.Pass.Fixpoint
import EventWiring.Proofs.Pass.Interleaving
import EventWiring.Proofs.Pass.Order
import EventWiring.Proofs.Pass.Outcome
import EventWiring.Proofs.Pass.Progress
import EventWiring.Proofs.Pass.Reached
import EventWiring.Proofs.Pass.Status
import EventWiring.Proofs.Pass.Writes
import EventWiring.Proofs.Program.Trace
import EventWiring.Proofs.World.Mute
import EventWiring.Proofs.World.Server
import EventWiring.Proofs.Pass.Gates
import EventWiring.Proofs.Pass.Twins
import EventWiring.Proofs.Requeue
import EventWiring.Proofs.World.History
import EventWiring.Proofs.Pass.Released
import EventWiring.Proofs.Json.Fields
import EventWiring.Proofs.Json.Printed
import EventWiring.Proofs.Api.Request
import EventWiring.Proofs.Api.StatusPatch
import EventWiring.Proofs.Notification.Report
import EventWiring.Proofs.Pass.Survey
import EventWiring.Proofs.Pass.TopicName
import EventWiring.Proofs.Pass.Recreation
import EventWiring.Proofs.World.Life
import EventWiring.Proofs.Pass.Markers
import EventWiring.Proofs.Pass.Once
import EventWiring.Proofs.Pass.Standing
import EventWiring.Proofs.Pass.Monotone
import EventWiring.Proofs.Pass.Identifiers
import EventWiring.Proofs.Condition.Times
import EventWiring.Proofs.Pass.Work
import EventWiring.Proofs.Pass.Times
import EventWiring.Proofs.Pass.Remembered
import EventWiring.Proofs.Json.Restored
import EventWiring.Proofs.Resource.Restored
import EventWiring.Proofs.Pass.Announced
import EventWiring.Proofs.Condition.Derived
import EventWiring.Proofs.Notification.Accepted
import EventWiring.Proofs.Json.Skipped
import EventWiring.Proofs.Json.Agreement
import EventWiring.Proofs.Notification.ByName
import EventWiring.Proofs.Pass.Wired
import EventWiring.Proofs.Notification.Listed
import EventWiring.Proofs.Condition.Growth
import EventWiring.Proofs.Key
import EventWiring.Proofs.Diagnostics
