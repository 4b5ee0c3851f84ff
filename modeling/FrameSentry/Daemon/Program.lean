import FrameSentry.Daemon.CommandLine
import FrameSentry.Daemon.Instance
import FrameSentry.Daemon.LogFilter

/-! The daemon as a program: from its arguments, its files and its environment to what it prints, what it logs
    and how it exits. What is told before the log is set up is lost. -/

namespace FrameSentry

namespace Program

/-- How a run of the program ends. -/
structure Completion where
  exitCode : Nat
  output : List String
  log : List LogEntry
  errors : List String
  files : Files
deriving DecidableEq, Repr

/-- A run that ends in a failure. -/
def fail (fs : Files) (log : List LogEntry) (complaints : List String) (e : DaemonError) : Completion :=
  ⟨1, [], log, complaints ++ [s!"Error: {e.message}"], fs⟩

/-- A run that ends well. -/
def succeed (fs : Files) (output : List String) (log : List LogEntry) (complaints : List String) : Completion :=
  ⟨0, output, log, complaints, fs⟩

/-- Builds the orchestrator and runs an instance of the daemon to its end. -/
def runDaemon (s : Surroundings) (pid : Nat) (c : Config) (fs : Files) (t : Telemetry) :
    Option DaemonError × Telemetry × Files :=
  match Orchestrator.build s.exporter c fs t with
  | (.error e, t) => (some e, t, fs)
  | (.ok o, _) =>
    match Instance.run s ⟨o, pid, .writing⟩ fs with
    | (some e, o, fs) => (some e, o.telemetry, fs)
    | (none, o, fs) => (none, o.telemetry.log .daemon .info "portwatch-daemon shut down" [], fs)

/-- The log is written in one of two formats. -/
def checkLogFormat (c : GeneralConfig) : Except DaemonError Unit :=
  if Config.logFormats.contains c.logFormat then .ok () else .error (.logFormat c.logFormat)

/-- Sets up the log, and then runs the daemon. -/
def runLogged (s : Surroundings) (pid : Nat) (e : Environment) (path : String) (c : Config) (fs : Files) : Completion :=
  let (directives, complaints) := LogFilter.choose (e.text? "RUST_LOG") c.general.logLevel
  match checkLogFormat c.general with
  | .error cause => fail fs [] complaints cause
  | .ok () =>
    let t := Telemetry.empty.log .daemon .info "portwatch-daemon starting"
      [("version", .text version), ("config", .text path)]
    let (failure, t, fs) := runDaemon s pid c fs t
    let log := t.logs.filter (LogFilter.admits directives)
    match failure with
    | some e => fail fs log complaints e
    | none => succeed fs [] log complaints

/-- Does what a command line asks for. -/
def runLine (s : Surroundings) (pid : Nat) (e : Environment) (line : CommandLine) (fs : Files) : Completion :=
  match (Config.load fs e line.configPath .empty).1 with
  | .error cause => fail fs [] [] (.loadFile line.configPath cause)
  | .ok c =>
    let c := line.apply c
    if line.validate then
      match c.validate with
      | .error cause => fail fs [] [] (.rejected cause)
      | .ok () => succeed fs [s!"configuration OK: {line.configPath}"] [] []
    else runLogged s pid e line.configPath c fs

/-- Runs the program. -/
def run (s : Surroundings) (pid : Nat) (args : List String) (e : Environment) (fs : Files) : Completion :=
  match CommandLine.parse args with
  | .error usage => ⟨usage.exitCode, CommandLine.usageLines usage, [], [], fs⟩
  | .ok line => runLine s pid e line fs

end Program
end FrameSentry
