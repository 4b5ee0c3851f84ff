import FrameSentry.Config.Load
import FrameSentry.Daemon.Consumer
import FrameSentry.Daemon.Listener
import FrameSentry.Engine.Run

/-! The orchestrator: it builds the engine from the configuration, starts it together with the consumer of
    its queue, and shuts both down, the engine first. If the configuration does not enable the engine there is
    none, and the daemon idles. -/

namespace FrameSentry

/-- What became of the consumer: it waits for a start, its task is there, or it is gone. -/
inductive ConsumerSlot where
  | held
  | task (state : Consumer.State)
  | gone
deriving DecidableEq, Repr

/-- An orchestrator. Without an engine it keeps what it told by itself. -/
structure Orchestrator where
  config : Config
  machine : Option Machine
  told : Telemetry
  consumer : ConsumerSlot
deriving DecidableEq, Repr

/-- The health of the daemon. -/
structure DaemonHealth where
  status : Health
  parts : List PartHealth
  hookCounters : Counters
  kernelCounters : Option Counters
deriving DecidableEq, Repr

namespace Orchestrator

/-- Everything told so far. -/
def telemetry (o : Orchestrator) : Telemetry :=
  match o.machine with
  | some m => m.telemetry
  | none => o.told

def setTelemetry (o : Orchestrator) (t : Telemetry) : Orchestrator :=
  match o.machine with
  | some m => { o with machine := some (m.setTelemetry t) }
  | none => { o with told := t }

/-- Writes a log entry. -/
def log (o : Orchestrator) (level : Level) (message : String) (fields : List (String × FieldValue)) :
    Orchestrator :=
  o.setTelemetry (o.telemetry.log .orchestrator level message fields)

/-! ### Building -/

/-- The rules of the configured rules file, if one is configured. -/
def loadRules (c : Config) (fs : Files) (t : Telemetry) : Except DaemonError (List PortRule) × Telemetry :=
  if c.filter.rulesPath = "" then (.ok [], t)
  else
    match PortRule.load fs c.filter.rulesPath t with
    | (.error e, t) => (.error (.rules e), t)
    | (.ok rules, t) =>
      (.ok rules, t.log .orchestrator .info "port rules loaded"
        [("count", .number rules.length), ("path", .text c.filter.rulesPath)])

/-- Builds the engine that the configuration and its rules file ask for. -/
def buildEngine (c : Config) (fs : Files) (t : Telemetry) : Except DaemonError Engine × Telemetry :=
  match loadRules c fs t with
  | (.error e, t) => (.error e, t)
  | (.ok rules, t) =>
    match Engine.build (some (rules.foldl EngineSettings.addRule (.ofConfig c))) none .telling with
    | .error e => (.error (.build e), t)
    | .ok e =>
      (.ok e, t.log .orchestrator .info "frame engine built"
        [("mode", .text e.mode.text), ("interface", .text c.engine.interface),
          ("watched_ports", .number e.watch.size)])

/-- Installs the metrics listener, if it is enabled. -/
def installListener (exporter : Exporter) (c : Config) (t : Telemetry) : Except DaemonError Unit × Telemetry :=
  if c.metrics.enabled then c.metrics.install exporter t else (.ok (), t)

/-- The engine, if it is enabled. -/
def chooseEngine (c : Config) (fs : Files) (t : Telemetry) : Except DaemonError (Option Engine) × Telemetry :=
  if c.engine.enabled then
    match buildEngine c fs t with
    | (.error e, t) => (.error e, t)
    | (.ok e, t) => (.ok (some e), t)
  else (.ok none, t.log .orchestrator .warn "frame engine disabled in configuration, daemon will idle" [])

/-- An orchestrator around an engine, or around none. -/
def around (c : Config) (engine : Option Engine) (t : Telemetry) : Orchestrator :=
  let t := t.log .orchestrator .info "orchestrator initialized" [("engine", .flag engine.isSome)]
  match engine with
  | none => ⟨c, none, t, .gone⟩
  | some e => ⟨c, some ((Machine.create e).setTelemetry t), .empty, .held⟩

/-- Builds an orchestrator from a configuration, which is checked once more. -/
def build (exporter : Exporter) (c : Config) (fs : Files) (t : Telemetry) :
    Except DaemonError Orchestrator × Telemetry :=
  match c.validate with
  | .error e => (.error (.invalid e), t)
  | .ok () =>
    match installListener exporter c t with
    | (.error e, t) => (.error e, t)
    | (.ok (), t) =>
      match chooseEngine c fs t with
      | (.error e, t) => (.error e, t)
      | (.ok engine, t) => let o := around c engine t; (.ok o, o.telemetry)

/-- Builds an orchestrator from a configuration file and the environment. -/
def buildFromFile (exporter : Exporter) (fs : Files) (e : Environment) (path : String) (t : Telemetry) :
    Except DaemonError Orchestrator × Telemetry :=
  match Config.load fs e path t with
  | (.error e, t) => (.error (.load e), t)
  | (.ok c, t) => build exporter c fs t

/-! ### Starting and shutting down -/

/-- Starts the engine, and the consumer the first time. Without an engine nothing is done. -/
def start (h : Host) (o : Orchestrator) : Except DaemonError Unit × Orchestrator :=
  match o.machine with
  | none => (.ok (), o)
  | some m =>
    match m.start h with
    | (.error e, m) => (.error (.start e), { o with machine := some m })
    | (.ok (), m) =>
      let consumer := match o.consumer with
        | .held => .task (.waiting 0)
        | slot => slot
      (.ok (), { o with machine := some m, consumer })

/-- Stops the engine if it runs. -/
def stopEngine (m : Machine) : Except DaemonError Unit × Machine :=
  if m.engine.running then
    match m.stop with
    | (.error e, m) => (.error (.stop e), m)
    | (.ok (), m) => (.ok (), m)
  else (.ok (), m)

/-- Ends the consumer's task, if there is one, and says how many events it handled. -/
def endConsumer (picks : List Bool) : ConsumerSlot → Session → Option Nat × ConsumerSlot × Session
  | .task (.waiting n), x => let (n, x) := Consumer.shutDown picks n x; (some n, .gone, x)
  | .task (.ended n), x => (some n, .gone, x)
  | slot, x => (none, slot, x)

/-- Stops the engine, and then lets the consumer handle what was committed. `picks` are the choices of the
    consumer's task between events and the signal. -/
def shutDown (picks : List Bool) (o : Orchestrator) : Except DaemonError Unit × Orchestrator :=
  match o.machine with
  | none => (.ok (), o)
  | some m =>
    let (result, m) := stopEngine m
    let (consumed, consumer, session) := endConsumer picks o.consumer m.engine.session
    let o := { o with machine := some (m.setEngine { m.engine with session }), consumer }
    (result, match consumed with
      | some n => o.log .info "capture consumer finished" [("consumed", .number n)]
      | none => o)

/-! ### Health -/

/-- The health of the consumer. -/
def consumerHealth (o : Orchestrator) : Health :=
  match o.consumer with
  | .task (.ended _) => .unhealthy "consumer task exited"
  | .task (.waiting _) => .healthy
  | .held => .unhealthy "not started"
  | .gone => .unhealthy "stopped"

/-- The health of the daemon and of its two parts, which count only if there is an engine. -/
def health (o : Orchestrator) : DaemonHealth :=
  let engine := o.machine.map (·.engine)
  let parts : List PartHealth :=
    [⟨"frame-engine", engine.isSome, (engine.map (·.health)).getD .healthy⟩,
      ⟨"capture-consumer", engine.isSome, o.consumerHealth⟩]
  { status := PartHealth.aggregate parts
    parts
    hookCounters := (engine.map (·.session.hooks.counters)).getD .zero
    kernelCounters := engine.bind (·.polled) }

/-! ### Running -/

/-- The consumer's task runs until it waits. -/
def runConsumer : ConsumerSlot → Session → ConsumerSlot × Session
  | .task (.waiting n), x => let (state, x) := Consumer.run true n x; (.task state, x)
  | slot, x => (slot, x)

/-- Every background task runs until it waits, those of the engine first. -/
def settle (o : Orchestrator) : Orchestrator :=
  match o.machine with
  | none => o
  | some m =>
    let m := m.settle
    let (consumer, session) := runConsumer o.consumer m.engine.session
    { o with machine := some (m.setEngine { m.engine with session }), consumer }

/-- Changes the machine, if there is one. -/
def onMachine (f : Machine → Machine) (o : Orchestrator) : Orchestrator := { o with machine := o.machine.map f }

/-- Everything settles, time passes, and everything settles again. -/
def tick (seconds : Nat) (o : Orchestrator) : Orchestrator := (o.settle.onMachine (·.pass seconds)).settle

end Orchestrator

/-- A step of an orchestrator. -/
inductive OrchestratorStep where
  | start
  | shutDown (picks : List Bool)
  | health
  | inject (packet : Frame) (direction : Direction) (cpu : Nat)
  | sample (bytes : Bytes)
  | disturb (call : KernelCall) (reason : Option String)
  | failSocket (load : Nat) (reason : String)
  | settle
  | tick (seconds : Nat)
deriving DecidableEq, Repr

/-- What a step answers. -/
inductive OrchestratorReply where
  | done
  | failed (cause : DaemonError)
  | nothing
  | health (health : DaemonHealth)
  | links (answers : List LinkAnswer)
deriving DecidableEq, Repr

namespace Orchestrator

def replyOf : Except DaemonError Unit → OrchestratorReply
  | .ok () => .done
  | .error e => .failed e

/-- A packet passes. Without an engine nothing is linked. -/
def inject (packet : Frame) (d : Direction) (cpu : Nat) (o : Orchestrator) : List LinkAnswer × Orchestrator :=
  match o.machine with
  | none => ([], o)
  | some m =>
    let (answers, m) := m.inject packet d cpu
    (answers, { o with machine := some m })

/-- One step. -/
def step (h : Host) (o : Orchestrator) : OrchestratorStep → OrchestratorReply × Orchestrator
  | .start => let (r, o) := o.start h; (replyOf r, o)
  | .shutDown picks => let (r, o) := o.shutDown picks; (replyOf r, o)
  | .health => (.health o.health, o)
  | .inject packet d cpu => let (answers, o) := o.inject packet d cpu; (.links answers, o)
  | .sample bytes => (.nothing, o.onMachine fun m => { m with kernel := m.kernel.sample bytes })
  | .disturb call reason => (.nothing, o.onMachine fun m => { m with kernel := m.kernel.disturb call reason })
  | .failSocket load reason => (.nothing, o.onMachine fun m => { m with kernel := m.kernel.failSocket load reason })
  | .settle => (.nothing, o.settle)
  | .tick seconds => (.nothing, o.tick seconds)

/-- A run of steps, with what each answers and the state after it. -/
def run (h : Host) (o : Orchestrator) : List OrchestratorStep → List (OrchestratorReply × Orchestrator)
  | [] => []
  | s :: rest =>
    let (reply, o) := o.step h s
    (reply, o) :: o.run h rest

end Orchestrator
end FrameSentry
