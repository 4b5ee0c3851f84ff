import FrameSentry.BuildTool
import FrameSentry.Capture.Exchange
import FrameSentry.Main
import FrameSentry.Proofs.Engine.Agreement
import FrameSentry.Proofs.Engine.CapturePath
import FrameSentry.Proofs.Engine.FailedStart
import FrameSentry.Proofs.Capture.Budget
import FrameSentry.Proofs.Capture.Delivery
import FrameSentry.Proofs.Capture.Summary
import FrameSentry.Proofs.Engine.FilterPath
import FrameSentry.Proofs.Engine.StartNotes
import FrameSentry.Proofs.Engine.PortsFirst
import FrameSentry.Proofs.Engine.Lifecycle
import FrameSentry.Proofs.Hook.Books
import FrameSentry.Proofs.Daemon.Handling
import FrameSentry.Proofs.Daemon.Commits
import FrameSentry.Proofs.Daemon.Shutdown
import FrameSentry.Proofs.Hook.DeclaredLength
import FrameSentry.Proofs.Capture.EndOfStream
import FrameSentry.Proofs.Config.Building
import FrameSentry.Proofs.Engine.Polling
import FrameSentry.Proofs.Engine.PublishedCounters
import FrameSentry.Proofs.Hook.Attempt
import FrameSentry.Proofs.Capture.Reservation
import FrameSentry.Proofs.Daemon.Health
import FrameSentry.Proofs.Daemon.Ownership
import FrameSentry.Proofs.Hook.Forwarding
import FrameSentry.Proofs.Engine.ClosedReader
import FrameSentry.Proofs.Config.Fields
import FrameSentry.Proofs.Config.PortList
import FrameSentry.Proofs.Config.Overrides
import FrameSentry.Proofs.Config.Precedence
import FrameSentry.Proofs.Config.PortLimit
import FrameSentry.Proofs.Daemon.Listener
import FrameSentry.Proofs.Files.Furnishing
import FrameSentry.Proofs.Daemon.FailedWrite
import FrameSentry.Proofs.Frame.Cursor
import FrameSentry.Proofs.Counters.Sums
