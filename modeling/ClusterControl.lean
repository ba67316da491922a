import ClusterControl.Client.Ask
import ClusterControl.Client.Dial
import ClusterControl.Client.Scope
import ClusterControl.Client.Session
import ClusterControl.Client.StatusReader
import ClusterControl.Client.Termination
import ClusterControl.Cluster.Basic
import ClusterControl.Cluster.Calls
import ClusterControl.Cluster.Errand
import ClusterControl.Cluster.Registry
import ClusterControl.Cluster.Run
import ClusterControl.Cluster.Shutdown
import ClusterControl.Cluster.Startup
import ClusterControl.CommandLine.Control
import ClusterControl.CommandLine.Grammar
import ClusterControl.CommandLine.Invocation
import ClusterControl.CommandLine.Report
import ClusterControl.CommandLine.Terminal
import ClusterControl.Decimal.Shortest
import ClusterControl.Failure
import ClusterControl.Feed
import ClusterControl.Json.Document
import ClusterControl.Json.Lookup
import ClusterControl.Json.Reading
import ClusterControl.Json.Value
import ClusterControl.Lifecycle
import ClusterControl.Mailbox.Exchange
import ClusterControl.Mailbox.Slot
import ClusterControl.Main
import ClusterControl.Net.Address
import ClusterControl.Net.HttpStatus
import ClusterControl.Net.MediaType
import ClusterControl.Net.Reach
import ClusterControl.Net.Url
import ClusterControl.Node
import ClusterControl.Nodes.Crew
import ClusterControl.Nodes.Echo
import ClusterControl.Nodes.ExitStatus
import ClusterControl.Nodes.Probe
import ClusterControl.Nodes.Wait
import ClusterControl.Path
import ClusterControl.Plan
import ClusterControl.Program
import ClusterControl.Proofs.Client.ScopeCourse
import ClusterControl.Proofs.Client.ScopeEnds
import ClusterControl.Proofs.Client.StreamCourse
import ClusterControl.Proofs.Client.StreamEnd
import ClusterControl.Proofs.Client.StreamVerdict
import ClusterControl.Proofs.Cluster.CallHistory
import ClusterControl.Proofs.Cluster.Coherence
import ClusterControl.Proofs.Cluster.Custody
import ClusterControl.Proofs.Cluster.FoundNodes
import ClusterControl.Proofs.Cluster.Journal
import ClusterControl.Proofs.Cluster.KnownNodes
import ClusterControl.Proofs.Cluster.LaunchHistory
import ClusterControl.Proofs.Cluster.LinearChanges
import ClusterControl.Proofs.Cluster.LockLine
import ClusterControl.Proofs.Cluster.Moves
import ClusterControl.Proofs.Cluster.NodeCharge
import ClusterControl.Proofs.Cluster.OneByOne
import ClusterControl.Proofs.Cluster.Quiescence
import ClusterControl.Proofs.Cluster.ReadySnapshot
import ClusterControl.Proofs.Cluster.RegistrySound
import ClusterControl.Proofs.Cluster.RestartCourse
import ClusterControl.Proofs.Cluster.RestartOutcome
import ClusterControl.Proofs.Cluster.Serialised
import ClusterControl.Proofs.Cluster.ShutdownOnce
import ClusterControl.Proofs.Cluster.SoloCalls
import ClusterControl.Proofs.Cluster.StartFailure
import ClusterControl.Proofs.Cluster.StartOutcome
import ClusterControl.Proofs.Cluster.StartReport
import ClusterControl.Proofs.Cluster.StatusHistory
import ClusterControl.Proofs.Cluster.StopCalls
import ClusterControl.Proofs.Cluster.Views
import ClusterControl.Proofs.Feed.Passage
import ClusterControl.Proofs.Feed.Schedule
import ClusterControl.Proofs.Json.Indented
import ClusterControl.Proofs.Json.Members
import ClusterControl.Proofs.Json.Readable
import ClusterControl.Proofs.Json.Reordering
import ClusterControl.Proofs.Json.RoundTrip
import ClusterControl.Proofs.Mailbox.Delivery
import ClusterControl.Proofs.Mailbox.Departure
import ClusterControl.Proofs.Mailbox.Ledger
import ClusterControl.Proofs.Net.AddressText
import ClusterControl.Proofs.Nodes.CrewLedger
import ClusterControl.Proofs.Nodes.CrewVerdict
import ClusterControl.Proofs.Nodes.EchoedLines
import ClusterControl.Proofs.Nodes.JointWait
import ClusterControl.Proofs.Nodes.NodeCourse
import ClusterControl.Proofs.Nodes.Probes
import ClusterControl.Proofs.Plan
import ClusterControl.Proofs.Plan.Layout
import ClusterControl.Proofs.Plan.Relaunch
import ClusterControl.Proofs.Roster
import ClusterControl.Proofs.Server.Accounts
import ClusterControl.Proofs.Server.Conversation
import ClusterControl.Proofs.Server.FreeSlot
import ClusterControl.Proofs.Server.LastStopped
import ClusterControl.Proofs.Server.Moves
import ClusterControl.Proofs.Server.OneCluster
import ClusterControl.Proofs.Server.ReadyStart
import ClusterControl.Proofs.Server.Streaming
import ClusterControl.Proofs.Settings.FileValues
import ClusterControl.Proofs.Settings.Resolution
import ClusterControl.Proofs.Sync.RunOnce
import ClusterControl.Proofs.Table
import ClusterControl.Proofs.Text.Blank
import ClusterControl.Proofs.Text.Utf8
import ClusterControl.Proofs.Wire.AnyOrder
import ClusterControl.Proofs.Wire.Bridge
import ClusterControl.Proofs.Wire.Frames
import ClusterControl.Proofs.Wire.Transparency
import ClusterControl.Rehearsal.Callers
import ClusterControl.Rehearsal.Clockwork
import ClusterControl.Rehearsal.ClusterShow
import ClusterControl.Rehearsal.CrewShow
import ClusterControl.Rehearsal.FeedShow
import ClusterControl.Rehearsal.Feeds
import ClusterControl.Rehearsal.Host
import ClusterControl.Rehearsal.LatchShow
import ClusterControl.Rehearsal.Launcher
import ClusterControl.Rehearsal.MailboxShow
import ClusterControl.Rehearsal.ScopeShow
import ClusterControl.Rehearsal.Script.Arithmetic
import ClusterControl.Rehearsal.Script.Command
import ClusterControl.Rehearsal.Script.Program
import ClusterControl.Rehearsal.Script.Run
import ClusterControl.Rehearsal.Script.Word
import ClusterControl.Rehearsal.ServerShow
import ClusterControl.Roster
import ClusterControl.Server.Api
import ClusterControl.Server.Basic
import ClusterControl.Server.Connection
import ClusterControl.Server.Gateway
import ClusterControl.Server.Run
import ClusterControl.Settings
import ClusterControl.Snapshot
import ClusterControl.Status
import ClusterControl.Sync.FairLock
import ClusterControl.Sync.Latch
import ClusterControl.Sync.LatchCalls
import ClusterControl.Sync.Notify
import ClusterControl.Sync.Signal
import ClusterControl.Table
import ClusterControl.Text.Blank
import ClusterControl.Text.Duration
import ClusterControl.Text.Quoted
import ClusterControl.Text.Shapeless
import ClusterControl.Text.SystemCause
import ClusterControl.Text.Utf8
import ClusterControl.Toml.Document
import ClusterControl.Toml.Scalar
import ClusterControl.Wire.ClusterInfo
import ClusterControl.Wire.Frame
import ClusterControl.Wire.Request
import ClusterControl.Wire.Response
