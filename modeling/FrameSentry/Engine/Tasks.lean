import FrameSentry.Engine.Machine

/-! The background tasks of an engine. They run only when the machine settles: tasks that have not run yet
    begin in the order in which they were started, then counters are polled as often as is due, and then the
    readers take everything that waits for them. Time passes only between two settlings. -/

namespace FrameSentry
namespace Machine

/-! ### Beginning -/

/-- What is told when a source cannot be waited for. -/
def watchError : List (String × FieldValue) := [("error", .text "Operation not permitted (os error 1)")]

/-- A task that reads begins by waiting for its source; if it cannot, it ends. -/
def beginReader (c : KernelCall) (message : String) (t : Task) (m : Machine) : Task × Machine :=
  if (m.kernel.fault? c).isSome then
    ({ t with phase := .finished }, m.log .loader .warn message watchError)
  else ({ t with phase := .waiting 0 }, m)

/-- A task that has not run yet begins. The first poll is due at once. -/
def beginTask (t : Task) (m : Machine) : Task × Machine :=
  if t.phase ≠ .fresh then (t, m)
  else
    match t.job with
    | .readRing _ => beginReader .watchRing "failed to register ring buffer fd" t m
    | .readSocket _ => beginReader .watchSocket "failed to register packet socket" t m
    | .pollCounters _ => ({ t with phase := .waiting m.clock }, m)

/-! ### Polling -/

/-- The values of one counter on all processors. A counter that cannot be read has none, which is told. -/
def readCounter (o : Outcome) (m : Machine) : List UInt64 × Machine :=
  match m.kernel.readCounter o with
  | .ok values => (values, m)
  | .error reason =>
    ([], m.log .loader .warn "failed to read kernel stats" [("index", .number o.index), ("error", .text reason)])

/-- The values of some counters, one after the other. -/
def readCounters : List Outcome → Machine → List (List UInt64) × Machine
  | [], m => ([], m)
  | o :: rest, m =>
    let (values, m) := m.readCounter o
    let (rows, m) := readCounters rest m
    (values :: rows, m)

/-- Reads every counter, sums each over the processors, and publishes the sums. -/
def poll (m : Machine) : Machine :=
  let (rows, m) := readCounters Outcome.all m
  let counters := Counters.sumPerCpu rows
  let m := m.setTelemetry { m.telemetry with metrics := m.telemetry.metrics ++ Metrics.kernelFrames counters }
  m.setEngine { m.engine with polled := some counters }

/-- Polls `n` times. -/
def pollTimes : Nat → Machine → Machine
  | 0, m => m
  | n + 1, m => pollTimes n m.poll

/-- How many polls are due at a time, and when the next one is. -/
def pollsDue (interval wake clock : Nat) : Nat × Nat :=
  if clock < wake then (0, wake)
  else
    let n := (clock - wake) / interval + 1
    (n, wake + n * interval)

/-- Polls as often as is due. -/
def pollTask (t : Task) (m : Machine) : Task × Machine :=
  match t.job, t.phase with
  | .pollCounters interval, .waiting wake =>
    let (n, next) := pollsDue interval wake m.clock
    ({ t with phase := .waiting next }, m.pollTimes n)
  | _, _ => (t, m)

/-! ### Reading -/

/-- Forwards at most `n` records of a ring to the queue, until the ring is empty. Once the consumer is gone
    the reader ends, and the answer is true. -/
def forwardRecords (load : Nat) : Nat → Machine → Bool × Machine
  | 0, m => (false, m)
  | n + 1, m =>
    let o := m.kernel.outlet load
    match o.ring.next? with
    | none => (false, m)
    | some (record, ring) =>
      let m := { m with kernel := m.kernel.setOutlet load { o with ring } }
      match m.engine.hookSettings.forward record m.engine.session.hooks with
      | (.ok (), hooks) => forwardRecords load n (m.setHooks hooks)
      | (.error _, hooks) =>
        (true, (m.setHooks hooks).log .loader .debug "capture consumer closed, ring buffer reader exiting" [])

/-- A frame as it is received from the socket: its real length, and no more bytes than are captured at most. -/
def received (data : Bytes) : Frame := ⟨data.take Record.captureLimit, UInt32.ofNat (min data.length 4294967295)⟩

/-- Receives what waits at a socket: each frame is handed to the observing hook, and a call that fails is told. -/
def observeFrames : List Incoming → Machine → Machine
  | [], m => m
  | .frame data :: rest, m =>
    observeFrames rest (m.setHooks (m.engine.hookSettings.onFrame (received data) m.engine.session.hooks).2)
  | .failure reason :: rest, m =>
    observeFrames rest (m.log .loader .warn "packet socket recv failed" [("error", .text reason)])

/-- A reader waits for its source; if that fails, it ends. -/
def awaitSource (c : KernelCall) (message : String) (read : Task → Machine → Task × Machine) (t : Task) (m : Machine) :
    Task × Machine :=
  match m.kernel.fault? c with
  | some reason => ({ t with phase := .finished }, m.log .loader .warn message [("error", .text reason)])
  | none => read t m

/-- Forwards everything that is in a ring. -/
def drainRing (load : Nat) (t : Task) (m : Machine) : Task × Machine :=
  let (ended, m) := forwardRecords load (m.kernel.outlet load).ring.records.length m
  (if ended then { t with phase := .finished } else t, m)

/-- Receives everything that waits at a socket. -/
def drainSocket (load : Nat) (t : Task) (m : Machine) : Task × Machine :=
  let o := m.kernel.outlet load
  (t, observeFrames o.inbox { m with kernel := m.kernel.setOutlet load { o with inbox := [] } })

/-- A reader takes everything that waits for it. -/
def readTask (t : Task) (m : Machine) : Task × Machine :=
  match t.job, t.phase with
  | .readRing load, .waiting _ => awaitSource .waitRing "ring buffer poll failed" (drainRing load) t m
  | .readSocket load, .waiting _ => awaitSource .waitSocket "packet socket poll failed" (drainSocket load) t m
  | _, _ => (t, m)

/-! ### Settling -/

/-- Lets each task of a list take a turn. -/
def turns (turn : Task → Machine → Task × Machine) : List Task → Machine → List Task × Machine
  | [], m => ([], m)
  | t :: rest, m =>
    let (t, m) := turn t m
    let (tasks, m) := turns turn rest m
    (t :: tasks, m)

/-- Lets each task of the engine take a turn. -/
def eachTask (turn : Task → Machine → Task × Machine) (m : Machine) : Machine :=
  let (tasks, m) := turns turn m.engine.tasks m
  m.setEngine { m.engine with tasks }

/-- Every task runs until it waits. -/
def settle (m : Machine) : Machine := ((m.eachTask beginTask).eachTask pollTask).eachTask readTask

/-- Time passes. -/
def pass (seconds : Nat) (m : Machine) : Machine := { m with clock := m.clock + seconds }

/-- The machine settles, time passes, and it settles again. -/
def tick (seconds : Nat) (m : Machine) : Machine := (m.settle.pass seconds).settle

end Machine
end FrameSentry
