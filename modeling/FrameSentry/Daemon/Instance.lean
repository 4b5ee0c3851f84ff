import FrameSentry.Daemon.Orchestrator
import FrameSentry.Daemon.PidFile

/-! An instance of the daemon, from its process id file to its end. It goes through stages, one step each, so
    that the steps of several instances on one tree of files can be interleaved. Whatever way a stage after
    the first ends, the file is removed before the instance ends. -/

namespace FrameSentry

/-- A signal that ends the daemon. -/
inductive Signal where
  | terminate
  | interrupt
deriving DecidableEq, Repr

def Signal.name : Signal → String
  | .terminate => "SIGTERM"
  | .interrupt => "SIGINT"

/-- Where an instance is. -/
inductive Stage where
  | writing
  | starting
  | serving
  | stopping (failure : Option String)
  | removing (failure : Option DaemonError)
  | ended (failure : Option DaemonError)
deriving DecidableEq, Repr

/-- An instance of the daemon. -/
structure Instance where
  orchestrator : Orchestrator
  pid : Nat
  stage : Stage
deriving DecidableEq, Repr

/-- What an instance meets outside: the machine under the engine, the exporter of metrics, how its wait for a signal
    ends, and the choices of the consumer's task. -/
structure Surroundings where
  host : Host
  exporter : Exporter
  signal : Except String Signal
  picks : List Bool

namespace Instance

/-- The path of the file for the process id; none if it is empty. -/
def pidPath (i : Instance) : Option String :=
  let path := i.orchestrator.config.general.pidFile
  if path = "" then none else some path

def failureOf {α : Type} : Except DaemonError α → Option DaemonError
  | .ok _ => none
  | .error e => some e

/-- Writes the process id. -/
def writePid (i : Instance) (fs : Files) : Instance × Files :=
  match i.pidPath with
  | none => ({ i with stage := .starting }, fs)
  | some path =>
    let (result, fs, t) := PidFile.write path i.pid fs i.orchestrator.telemetry
    let stage := match result with
      | .ok () => Stage.starting
      | .error e => .ended (some e)
    ({ i with orchestrator := i.orchestrator.setTelemetry t, stage }, fs)

/-- Starts the orchestrator. -/
def start (s : Surroundings) (i : Instance) : Instance :=
  match i.orchestrator.start s.host with
  | (.error e, orchestrator) => { i with orchestrator, stage := .removing (some e) }
  | (.ok (), o) => { i with orchestrator := o.log .info "portwatch-daemon running" [], stage := .serving }

/-- Serves until a signal comes; the background tasks run meanwhile. -/
def serve (s : Surroundings) (i : Instance) : Instance :=
  let o := i.orchestrator.settle
  match s.signal with
  | .ok signal =>
    { i with
      orchestrator := o.log .info "shutdown signal received" [("signal", .text signal.name)]
      stage := .stopping none }
  | .error reason =>
    { i with
      orchestrator := o.log .error "signal handling failed, shutting down" [("error", .text reason)]
      stage := .stopping (some reason) }

/-- Shuts the orchestrator down. A failure of that comes before one of the wait for a signal. -/
def stop (s : Surroundings) (failure : Option String) (i : Instance) : Instance :=
  let (result, orchestrator) := i.orchestrator.shutDown s.picks
  { i with orchestrator, stage := .removing (failureOf result <|> failure.map .signal) }

/-- Removes the file that holds the process id. -/
def removePid (failure : Option DaemonError) (i : Instance) (fs : Files) : Instance × Files :=
  match i.pidPath with
  | none => ({ i with stage := .ended failure }, fs)
  | some path =>
    let (fs, t) := PidFile.remove path fs i.orchestrator.telemetry
    ({ i with orchestrator := i.orchestrator.setTelemetry t, stage := .ended failure }, fs)

/-- One step, which takes an instance to its next stage. -/
def step (s : Surroundings) (i : Instance) (fs : Files) : Instance × Files :=
  match i.stage with
  | .writing => i.writePid fs
  | .starting => (i.start s, fs)
  | .serving => (i.serve s, fs)
  | .stopping failure => (i.stop s failure, fs)
  | .removing failure => i.removePid failure fs
  | .ended _ => (i, fs)

/-- So many steps. -/
def steps (s : Surroundings) : Nat → Instance → Files → Instance × Files
  | 0, i, fs => (i, fs)
  | n + 1, i, fs => let (i, fs) := i.step s fs; steps s n i fs

/-- The number of stages before the end. -/
def stageCount : Nat := 5

/-- Runs to the end, and says how it ended. -/
def run (s : Surroundings) (i : Instance) (fs : Files) : Option DaemonError × Orchestrator × Files :=
  let (i, fs) := steps s stageCount i fs
  match i.stage with
  | .ended failure => (failure, i.orchestrator, fs)
  | _ => (none, i.orchestrator, fs)

end Instance
end FrameSentry
