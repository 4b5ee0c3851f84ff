import FrameSentry.Engine.Attachment
import FrameSentry.Engine.Tasks

/-! Runs of a machine: everything that can be done to an engine from outside, and what each step answers. -/

namespace FrameSentry

/-- A step of a machine. -/
inductive MachineStep where
  | start
  | stop
  | health
  | hook (frame : Frame)
  | onFrame (frame : Frame)
  | enforce (frame : Frame)
  | consume (step : ReceiverStep)
  | inject (packet : Frame) (direction : Direction) (cpu : Nat)
  | sample (bytes : Bytes)
  | disturb (call : KernelCall) (reason : Option String)
  | failSocket (load : Nat) (reason : String)
  | settle
  | tick (seconds : Nat)
deriving DecidableEq, Repr

/-- What a step answers. -/
inductive MachineReply where
  | done
  | failed (cause : Error)
  | nothing
  | health (health : Health)
  | session (reply : SessionReply)
  | links (answers : List LinkAnswer)
deriving DecidableEq, Repr

namespace Machine

def replyOf : Except Error Unit → MachineReply
  | .ok () => .done
  | .error e => .failed e

/-- A step of the hooks' session. -/
def onSession (s : SessionStep) (m : Machine) : MachineReply × Machine :=
  let (reply, session) := m.engine.session.step m.engine.hookSettings s
  (.session reply, m.setEngine { m.engine with session })

/-- The hook of the engine's mode sees a frame. -/
def hookStep (mode : Mode) (frame : Frame) : SessionStep :=
  match mode with
  | .capture => .handle frame
  | .enforce => .enforce frame

/-- The socket of a load is open as long as its reader goes on. -/
def opened (m : Machine) (load : Nat) : Bool :=
  m.engine.tasks.any fun t => t.job = .readSocket load && t.phase ≠ .finished

/-- A packet passes the interface: the programs that are linked run on it, and it reaches the sockets that have no
    filter. -/
def inject (m : Machine) (packet : Frame) (d : Direction) (cpu : Nat) : List LinkAnswer × Machine :=
  let (answers, kernel) := m.kernel.inject packet d cpu
  (answers, { m with kernel := kernel.overhear m.opened packet.data })

/-- One step. -/
def step (h : Host) (m : Machine) : MachineStep → MachineReply × Machine
  | .start => let (r, m) := m.start h; (replyOf r, m)
  | .stop => let (r, m) := m.stop; (replyOf r, m)
  | .health => (.health m.engine.health, m)
  | .hook frame => m.onSession (hookStep m.engine.mode frame)
  | .onFrame frame => m.onSession (.onFrame frame)
  | .enforce frame => m.onSession (.enforce frame)
  | .consume s => m.onSession (.consume s)
  | .inject packet direction cpu => let (answers, m) := m.inject packet direction cpu; (.links answers, m)
  | .sample bytes => (.nothing, { m with kernel := m.kernel.sample bytes })
  | .disturb call reason => (.nothing, { m with kernel := m.kernel.disturb call reason })
  | .failSocket load reason => (.nothing, { m with kernel := m.kernel.failSocket load reason })
  | .settle => (.nothing, m.settle)
  | .tick seconds => (.nothing, m.tick seconds)

/-- A run of steps, with what each answers and the state after it. -/
def run (h : Host) (m : Machine) : List MachineStep → List (MachineReply × Machine)
  | [] => []
  | s :: rest =>
    let (reply, m) := m.step h s
    (reply, m) :: m.run h rest

end Machine
end FrameSentry
