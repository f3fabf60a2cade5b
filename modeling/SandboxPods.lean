import SandboxPods.Client.Basic
import SandboxPods.Client.Call
import SandboxPods.Client.Connect
import SandboxPods.Client.Create
import SandboxPods.Client.Destroy
import SandboxPods.Client.Exchange
import SandboxPods.Client.PortClaim
import SandboxPods.Client.Report
import SandboxPods.Client.ReportWire
import SandboxPods.Cluster.Error
import SandboxPods.Cluster.Memory
import SandboxPods.Cluster.Request
import SandboxPods.CommandLine.Arguments
import SandboxPods.CommandLine.Session
import SandboxPods.Dialogue
import SandboxPods.Engine.Attached
import SandboxPods.Engine.Basic
import SandboxPods.Engine.Bridge
import SandboxPods.Engine.Exchange
import SandboxPods.Engine.Operations
import SandboxPods.Error
import SandboxPods.Error.Wire
import SandboxPods.Execution.Basic
import SandboxPods.Failure
import SandboxPods.Handle
import SandboxPods.Http.Endpoint
import SandboxPods.Http.Message
import SandboxPods.Identity.Passwd
import SandboxPods.Image.Reference
import SandboxPods.Json.Lenient
import SandboxPods.Json.Reader
import SandboxPods.Json.Record
import SandboxPods.Json.Value
import SandboxPods.Json.Writer
import SandboxPods.Main
import SandboxPods.Number.Binary64
import SandboxPods.Number.Decimal
import SandboxPods.Number.Shortest
import SandboxPods.PathEntry
import SandboxPods.Pod.Basic
import SandboxPods.Pod.Plan
import SandboxPods.Pod.Wire
import SandboxPods.PortPool
import SandboxPods.Proofs.Client.Accounts
import SandboxPods.Proofs.Client.Books
import SandboxPods.Proofs.Client.Connection
import SandboxPods.Proofs.Client.DestructionEnding
import SandboxPods.Proofs.Client.DiskLimit
import SandboxPods.Proofs.Client.EqualRace
import SandboxPods.Proofs.Client.HandleRace
import SandboxPods.Proofs.Client.ImageBudget
import SandboxPods.Proofs.Client.Incarnation
import SandboxPods.Proofs.Client.Interleaving
import SandboxPods.Proofs.Client.KeepingCluster
import SandboxPods.Proofs.Client.Listing
import SandboxPods.Proofs.Client.Mirror
import SandboxPods.Proofs.Client.Ownership
import SandboxPods.Proofs.Client.PodNames
import SandboxPods.Proofs.Client.PortAccounting
import SandboxPods.Proofs.Client.PortAssignment
import SandboxPods.Proofs.Client.PortExclusivity
import SandboxPods.Proofs.Client.Progress
import SandboxPods.Proofs.Client.Readiness
import SandboxPods.Proofs.Client.Restart
import SandboxPods.Proofs.Client.SharedPorts
import SandboxPods.Proofs.Client.Solo
import SandboxPods.Proofs.Client.Stakes
import SandboxPods.Proofs.Client.TaskAttachment
import SandboxPods.Proofs.Client.Transcript
import SandboxPods.Proofs.Client.Undoing
import SandboxPods.Proofs.Cluster.RequestTarget
import SandboxPods.Proofs.Engine.Delivery
import SandboxPods.Proofs.Engine.HostNumbers
import SandboxPods.Proofs.Engine.Pumps
import SandboxPods.Proofs.Execution.Environment
import SandboxPods.Proofs.Execution.Reaping
import SandboxPods.Proofs.Execution.SharedRun
import SandboxPods.Proofs.Execution.Signals
import SandboxPods.Proofs.Handle
import SandboxPods.Proofs.Identity.DecidingLine
import SandboxPods.Proofs.Image.Qualified
import SandboxPods.Proofs.Image.WellFormed
import SandboxPods.Proofs.Image.WrittenForm
import SandboxPods.Proofs.Json.Reading
import SandboxPods.Proofs.Number.Numeral
import SandboxPods.Proofs.Pod.Layout
import SandboxPods.Proofs.Pod.RoundTrip
import SandboxPods.Proofs.PortChoice
import SandboxPods.Proofs.PortClaim
import SandboxPods.Proofs.PortLedger
import SandboxPods.Proofs.PortPool
import SandboxPods.Proofs.PortRuns
import SandboxPods.Proofs.Quantity
import SandboxPods.Proofs.Stores
import SandboxPods.Proofs.Telemetry.Samples
import SandboxPods.Proofs.Telemetry.Usages
import SandboxPods.Proofs.Text.Encoded
import SandboxPods.Proofs.Transfer.Location
import SandboxPods.Quantity
import SandboxPods.Sandbox.Basic
import SandboxPods.Sandbox.Spec
import SandboxPods.Sandbox.Wire
import SandboxPods.Settings.Basic
import SandboxPods.Settings.Document
import SandboxPods.Settings.Wire
import SandboxPods.Stores
import SandboxPods.Table
import SandboxPods.Telemetry.Summary
import SandboxPods.Text.Blank
import SandboxPods.Text.Percent
import SandboxPods.Text.Plain
import SandboxPods.Text.Split
import SandboxPods.Text.Utf8
import SandboxPods.Time.Span
import SandboxPods.Time.Timestamp
import SandboxPods.Transfer.Helper
import SandboxPods.Transfer.SourcePath
import SandboxPods.Yaml.Cursor
import SandboxPods.Yaml.Node
import SandboxPods.Yaml.Scalar
import SandboxPods.Yaml.Token
