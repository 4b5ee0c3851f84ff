import FrameSentry.Config.Basic
import FrameSentry.Daemon.Error
import FrameSentry.Daemon.Version
import FrameSentry.Net.Address
import FrameSentry.Telemetry

/-! The listener that serves metrics: where it waits, and what is told when it is installed. -/

namespace FrameSentry

/-- Why the recorder of metrics cannot be installed so that it serves them at an address, if it cannot: the address may be
    taken, and a process has only one recorder. -/
abbrev Exporter : Type := Net.SocketAddress → Option String

namespace MetricsConfig

/-- The only path that metrics are served at. -/
def servedEndpoint : String := "/metrics"

/-- Where the listener waits: the configured address and port are written side by side and read as one
    socket address. -/
def listenOn (m : MetricsConfig) : Except DaemonError Net.SocketAddress :=
  if m.endpoint ≠ servedEndpoint then .error (.endpoint m.endpoint)
  else
    match Net.SocketAddress.parse? s!"{m.listenAddress}:{m.port.toNat}" with
    | some address => .ok address
    | none => .error .listenAddress

/-- Installs the listener, with a warning if it waits on every interface. -/
def install (exporter : Exporter) (m : MetricsConfig) (t : Telemetry) : Except DaemonError Unit × Telemetry :=
  match m.listenOn with
  | .error e => (.error e, t)
  | .ok address =>
    let place : List (String × FieldValue) := [("listen_addr", .text address.text)]
    let t :=
      if address.ip.isUnspecified then
        t.log .listener .warn
          "metrics endpoint is exposed on all interfaces; restrict listen_addr in untrusted networks" place
      else t
    match exporter address with
    | some reason => (.error (.recorder reason), t)
    | none =>
      let t := t.log .listener .info "Prometheus metrics endpoint active" place
      (.ok (), t.log .orchestrator .debug "daemon metrics recorded" [("version", .text version)])

end MetricsConfig
end FrameSentry
