import ApplianceAdmin.Async.Shared
import ApplianceAdmin.System.Concurrent
import ApplianceAdmin.System.Surface
import ApplianceAdmin.Network.Bus
import ApplianceAdmin.Network.Read
import ApplianceAdmin.Network.Connect
import ApplianceAdmin.Network.Scan
import ApplianceAdmin.Network.Frame
import ApplianceAdmin.Network.Transaction
import ApplianceAdmin.Network.Atomicity
import ApplianceAdmin.Network.World
import ApplianceAdmin.Server
import ApplianceAdmin.Network.Checkpoints
import ApplianceAdmin.Network.Requests
import ApplianceAdmin.Network.ScanRecord
import ApplianceAdmin.Network.ScanTask
import ApplianceAdmin.Network.ScanRuns
import ApplianceAdmin.Network.Outage
import ApplianceAdmin.Lists.Grouping
import ApplianceAdmin.Network.Radios
import ApplianceAdmin.Network.Ranking
import ApplianceAdmin.Network.Merging
import ApplianceAdmin.Network.Overlap
import ApplianceAdmin.Network.Commit
import ApplianceAdmin.Network.Ownership
import ApplianceAdmin.Async.Segments
import ApplianceAdmin.Network.ScanCache
import ApplianceAdmin.Python.Utf8
import ApplianceAdmin.Network.Identity
import ApplianceAdmin.Ipc.Wire
import ApplianceAdmin.Ipc.Messages
import ApplianceAdmin.Ipc.Daemon
import ApplianceAdmin.Ipc.Client
import ApplianceAdmin.Recovery.Script
import ApplianceAdmin.Recovery.World
import ApplianceAdmin.Recovery.Polls
import ApplianceAdmin.Recovery.Termination
import ApplianceAdmin.Network.Verdict
import ApplianceAdmin.Network.Completion
import ApplianceAdmin.System.Children
import ApplianceAdmin.System.Republish
import ApplianceAdmin.Ipc.Framing
import ApplianceAdmin.Network.Credentials
import ApplianceAdmin.System.Units
import ApplianceAdmin.Network.Status
import ApplianceAdmin.Migration.Script
import ApplianceAdmin.Migration.World
import ApplianceAdmin.Migration.Rollback
import ApplianceAdmin.Migration.Profiles
import ApplianceAdmin.Migration.Ethernet
import ApplianceAdmin.Async.Subroutine
import ApplianceAdmin.Network.Opening
import ApplianceAdmin.Network.Connection
import ApplianceAdmin.System.Registration
import ApplianceAdmin.Async.Locks
import ApplianceAdmin.Network.Looking
import ApplianceAdmin.Async.Interruption
import ApplianceAdmin.Network.Locks
import ApplianceAdmin.Network.Handlers
import ApplianceAdmin.Async.History
import ApplianceAdmin.Network.Surface
import ApplianceAdmin.Async.Interpret
import ApplianceAdmin.Daemon.Results
import ApplianceAdmin.Daemon.Handlers
import ApplianceAdmin.Daemon.Served
import ApplianceAdmin.Daemon.Surface
import ApplianceAdmin.Async.TwoRuns
import ApplianceAdmin.Network.Secrets
import ApplianceAdmin.Daemon.Secrets
import ApplianceAdmin.Web.App
import ApplianceAdmin.Ipc.Conversation
import ApplianceAdmin.Web.Gate
import ApplianceAdmin.Web.Contract
import ApplianceAdmin.Web.Report
import ApplianceAdmin.Network.Profiles
import ApplianceAdmin.Network.Refusal
import ApplianceAdmin.Network.History
import ApplianceAdmin.Migration.Effects
import ApplianceAdmin.Async.Composition
import ApplianceAdmin.Network.Walk
