import FrameSentry.Engine.Machine

/-! Starting and stopping an engine. A start loads the object, puts the watched ports into the kernel's map,
    links the programs of the engine's mode and starts the background tasks, one step after the other. A step
    that fails ends the start: the object is given up, and the tasks that were started are no longer owned by
    the engine. -/

namespace FrameSentry

/-- A step of a start. What it did before it failed stays done. -/
abbrev SetupStep := Machine → Except Error Unit × Machine

namespace SetupStep

/-- Steps one after the other, up to the first that fails. -/
def runAll : List SetupStep → SetupStep
  | [], m => (.ok (), m)
  | s :: rest, m =>
    match s m with
    | (.error e, m) => (.error e, m)
    | (.ok (), m) => runAll rest m

/-- A step that only changes the machine. -/
def always (f : Machine → Machine) : SetupStep := fun m => (.ok (), f m)

/-- A step that only finds whether something is wrong. -/
def check (fault : Machine → Option Error) : SetupStep := fun m =>
  match fault m with
  | some e => (.error e, m)
  | none => (.ok (), m)

/-- A call to the kernel; `describe` turns the reason why it fails into an error. -/
def call (f : Kernel → Except String Kernel) (describe : String → Error) : SetupStep := fun m =>
  match f m.kernel with
  | .error reason => (.error (describe reason), m)
  | .ok kernel => (.ok (), { m with kernel })

/-- A call to the kernel that may fail; a failure is only told. -/
def attempt (f : Kernel → Except String Kernel) (tell : String → Machine → Machine) : SetupStep := fun m =>
  match f m.kernel with
  | .error reason => (.ok (), tell reason m)
  | .ok kernel => (.ok (), { m with kernel })

end SetupStep

open SetupStep (runAll always check call attempt)

def mapError (reason : String) : Error := .attach (.map reason)

def programError (reason : String) : Error := .attach (.programLoad reason)

def socketError (reason : String) : Error := .attach (.socket reason)

namespace Machine

def interface (m : Machine) : String := m.engine.settings.base.interface

/-- Starts a background task. -/
def spawn (job : Job) (m : Machine) : Machine :=
  m.setEngine { m.engine with tasks := m.engine.tasks ++ [⟨job, .fresh, true⟩] }

/-! ### Loading -/

/-- Loads the object that the configuration names, with its maps sized from the configuration. -/
def loadObject (h : Host) : SetupStep := fun m =>
  let s := m.engine.settings
  match s.watchMapSize, s.ringSize h.pageSize, h.object? s.base.programPath with
  | .error e, _, _ => (.error e, m)
  | .ok _, .error e, _ => (.error e, m)
  | .ok _, .ok _, none => (.error (programError s!"{s.base.programPath}: not a kernel object"), m)
  | .ok watchSize, .ok ringSize, some o =>
    let kernel := m.kernel.load s.base.programPath o h.processors watchSize ringSize
    (.ok (), { m with kernel }.log .loader .debug "kernel maps sized from config"
      [("watch_entries", .number watchSize), ("ring_size", .number ringSize)])

/-- Sets up the log of the kernel programs. -/
def initLogger : SetupStep :=
  attempt Kernel.initLogger fun reason m =>
    m.log .loader .warn "failed to initialize eBPF logger" [("error", .text reason)]

/-- Puts one watched port into the kernel's map. -/
def syncPort (port : UInt16) : SetupStep :=
  call (·.insertPort port) fun reason => mapError s!"insert port {port.toNat}: {reason}"

/-- Puts the watched ports into the kernel's map. -/
def syncPorts : SetupStep := fun m =>
  runAll [check fun m => (m.kernel.mapFault Object.watchedPorts "hash").map mapError,
    runAll (m.engine.watch.ports.map syncPort),
    always fun m =>
      m.log .loader .debug "watched ports synced to kernel" [("count", .number m.engine.watch.size)]] m

/-! ### Observing -/

/-- Adds what the observers need at the interface; that it cannot be added is only told. -/
def addQdisc : SetupStep := fun m =>
  attempt (·.addQdisc m.interface) (fun reason m =>
    m.log .loader .debug "clsact qdisc not added (may already exist)"
      [("interface", .text m.interface), ("error", .text reason)]) m

/-- Loads an observer and links it at the interface. -/
def attachObserver (p : Program) (point : String → AttachPoint) : SetupStep := fun m =>
  runAll [check fun m => (m.kernel.programFault p).map programError,
    call (·.loadProgram p) fun reason => programError s!"load {p.name}: {reason}",
    call (·.attach p (point m.interface)) fun reason =>
      programError s!"attach {p.name} to {m.interface}: {reason}",
    always fun m =>
      m.log .loader .debug "tc program attached" [("program", .text p.name), ("interface", .text m.interface)]] m

/-- Links both observers and starts the reader of the ring. -/
def attachObservers : SetupStep :=
  runAll [addQdisc, attachObserver .tcIngress .ingress, attachObserver .tcEgress .egress,
    check fun m => (m.kernel.mapFault Object.events "ringbuf").map mapError,
    always fun m => m.spawn (.readRing m.kernel.loads)]

/-! ### Filtering -/

/-- Opens a raw packet socket and binds it to the interface. -/
def openSocket (h : Host) : SetupStep := fun m =>
  let name := m.interface
  match h.socketFault?, h.interfaceIndex name, h.bindFault? name with
  | some reason, _, _ => (.error (socketError s!"socket(AF_PACKET): {reason}"), m)
  | none, .error reason, _ => (.error (socketError reason), m)
  | none, .ok _, some reason => (.error (socketError s!"bind to '{name}': {reason}"), m)
  | none, .ok index, none =>
    (.ok (), m.log .loader .debug "packet socket bound" [("interface", .text name), ("ifindex", .number index)])

/-- Links the filter to the socket and starts the reader of the socket. -/
def attachFilter (h : Host) : SetupStep :=
  let p := Program.portFilter
  runAll [openSocket h,
    check fun m => (m.kernel.programFault p).map programError,
    call (·.loadProgram p) fun reason => programError s!"load {p.name}: {reason}",
    call (·.attach p .socket) fun reason => socketError s!"attach {p.name}: {reason}",
    always fun m => m.spawn (.readSocket m.kernel.loads)]

/-! ### Start and stop -/

/-- Links the programs of the engine's mode. -/
def attachMode (h : Host) : SetupStep := fun m =>
  match m.engine.mode with
  | .capture => attachObservers m
  | .enforce => attachFilter h m

/-- Starts the poller of the kernel's counters. -/
def startPoller : SetupStep :=
  runAll [check fun m => (m.kernel.mapFault Object.statistics "percpu_array").map mapError,
    always fun m => m.spawn (.pollCounters (max m.engine.settings.base.statsInterval 1))]

/-- Everything that a start does after its first log entry. -/
def setUp (h : Host) : SetupStep :=
  runAll [loadObject h, initLogger, syncPorts, attachMode h, startPoller,
    always fun m =>
      m.log .loader .info "frame engine attached" [("interface", .text m.interface), ("mode", .text m.engine.mode.text)]]

/-- What becomes of a start that failed: the object is given up if it was loaded, and the tasks are left to
    themselves. -/
def giveUp (m : Machine) : Machine :=
  { m with
    kernel := if m.kernel.loaded then m.kernel.unload else m.kernel
    engine := { m.engine with tasks := m.engine.tasks.map fun t => { t with owned := false } } }

/-- Starts the engine. -/
def start (h : Host) : SetupStep := fun m =>
  if m.engine.running then (.error (.pipeline .alreadyRunning), m)
  else
    let m := m.log .engine .info "starting frame engine"
      [("interface", .text m.interface), ("mode", .text m.engine.mode.text), ("ports", .text m.engine.watch.text)]
    match setUp h m with
    | (.error e, m) => (.error e, m.giveUp)
    | (.ok (), m) => (.ok (), m.setEngine { m.engine with running := true, polled := some .zero })

/-- Stops the engine: its tasks end, and the object is given up. -/
def stop : SetupStep := fun m =>
  if !m.engine.running then (.error (.pipeline .notRunning), m)
  else
    let m := m.log .engine .info "stopping frame engine" []
    (.ok (),
      { m with
        kernel := m.kernel.unload
        engine := { m.engine with
          running := false, polled := none, tasks := m.engine.tasks.filter fun t => !t.owned } })

end Machine
end FrameSentry
