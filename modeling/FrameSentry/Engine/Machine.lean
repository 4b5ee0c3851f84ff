import FrameSentry.Engine.Settings
import FrameSentry.Health
import FrameSentry.Hook.Session
import FrameSentry.Kernel.System

/-! The engine and the machine that it works in. An engine has its settings, the session of its hooks, and
    the tasks that it started. The machine adds the kernel and a clock; the host says what the machine can
    do. -/

namespace FrameSentry

/-- What a background task does: it forwards the records of a ring, hands the frames of a socket to the
    observing hook, or polls the kernel's counters once in so many seconds. Ring and socket are those of a
    load. -/
inductive Job where
  | readRing (load : Nat)
  | readSocket (load : Nat)
  | pollCounters (interval : Nat)
deriving DecidableEq, Repr

/-- How far a task is: it has not run yet, it waits for something to read or for a moment, or it has ended. -/
inductive Phase where
  | fresh
  | waiting (wake : Nat)
  | finished
deriving DecidableEq, Repr

/-- A background task. One that is not owned goes on when the engine stops. -/
structure Task where
  job : Job
  phase : Phase
  owned : Bool
deriving DecidableEq, Repr

/-- A frame engine. -/
structure Engine where
  settings : EngineSettings
  mode : Mode
  watch : WatchList
  sink : Sink
  session : Session
  running : Bool
  tasks : List Task
  polled : Option Counters
deriving DecidableEq, Repr

/-- What the machine under the engine can do: its processors and pages, its interfaces by name, each with its
    index, why a packet socket cannot be opened, or bound to an interface, and the kernel objects that its
    files hold. -/
structure Host where
  processors : Nat
  pageSize : Nat
  interfaces : List (String × Nat)
  socketFault? : Option String
  bindFault? : String → Option String
  object? : String → Option Object

/-- The index of an interface as a socket is bound to it: a word of 32 bits with a sign. -/
def Host.interfaceIndex (h : Host) (name : String) : Except String Nat :=
  if name.toList.contains '\x00' then .error s!"invalid interface name '{name}'"
  else
    match h.interfaces.lookup name with
    | none => .error s!"interface '{name}': No such device (os error 19)"
    | some index => if index ≤ 2147483647 then .ok index else .error s!"interface index {index} out of range"

/-- An engine with its kernel and the seconds that have passed. -/
structure Machine where
  engine : Engine
  kernel : Kernel
  clock : Nat
deriving DecidableEq, Repr

namespace Engine

/-- Builds an engine. Its queue has the capacity that is given, or that of the configured ring. -/
def build (settings : Option EngineSettings) (capacity : Option Nat) (sink : Sink) : Except Error Engine := do
  match settings with
  | none => .error (.pipeline (.initFailed "config is required"))
  | some settings =>
    let mode ← settings.mode
    let watch ← settings.watchList
    let capacity := capacity.getD settings.capture.ringBufferSize
    if capacity = 0 then .error (.pipeline (.initFailed "capture queue capacity must be > 0"))
    else
      return { settings, mode, watch, sink, session := .create capacity, running := false, tasks := [],
               polled := none }

/-- What the hooks of the engine are set to. -/
def hookSettings (e : Engine) : HookSettings := ⟨e.watch.ports, e.settings.capture.maxCapture, e.sink⟩

/-- Changes what the hooks share. -/
def setHooks (e : Engine) (hooks : HookState) : Engine := { e with session := { e.session with hooks } }

/-- The health of the engine. -/
def health (e : Engine) : Health :=
  if !e.running then .unhealthy "not running"
  else if e.session.hooks.queue.closed then .degraded "capture consumer closed"
  else if e.tasks.any fun t => t.owned && t.phase = .finished then .degraded "background task exited"
  else .healthy

end Engine

namespace Machine

/-- A machine in which nothing has happened. -/
def create (engine : Engine) : Machine := ⟨engine, .idle, 0⟩

def setEngine (m : Machine) (engine : Engine) : Machine := { m with engine }

def setHooks (m : Machine) (hooks : HookState) : Machine := m.setEngine (m.engine.setHooks hooks)

/-- Everything that the engine and its hooks told. -/
def telemetry (m : Machine) : Telemetry := m.engine.session.hooks.telemetry

def setTelemetry (m : Machine) (telemetry : Telemetry) : Machine :=
  m.setHooks { m.engine.session.hooks with telemetry }

/-- Writes a log entry. -/
def log (m : Machine) (c : Component) (level : Level) (message : String) (fields : List (String × FieldValue)) :
    Machine :=
  m.setTelemetry (m.telemetry.log c level message fields)

end Machine
end FrameSentry
