import FrameSentry.Capture.Summary
import FrameSentry.Hook.Session

/-! The consumer of captured frames: it learns what each event holds and tells it, one log entry and one count
    for each. It ends when no event can come any more, or on the signal to shut down, after it has closed the
    queue and handled what was committed before. -/

namespace FrameSentry

/-- What is counted of an event: its protocol, if its bytes still tell. -/
def Summary.protocolLabel (s : Summary) : String :=
  match s.classification with
  | .classified frame => frame.protocol.name
  | _ => "unknown"

namespace Telemetry

/-- Tells of an event that was handled. -/
def tellConsumed (t : Telemetry) (s : Summary) : Telemetry :=
  let sizes : List (String × FieldValue) :=
    [("length", .number s.length.toNat), ("captured", .number s.captured)]
  let t := match s.classification with
    | .classified frame =>
      t.log .consumer .info "captured frame"
        (frame.fields ++ sizes ++ [("payload_len", FieldValue.number (s.payloadLength.getD 0))])
    | c => t.log .consumer .debug "captured frame not re-classifiable" (("outcome", .text c.name) :: sizes)
  t.count Metrics.eventsConsumedTotal [(Metrics.protocolLabel, s.protocolLabel)]

end Telemetry

namespace Session

/-- Writes a log entry of the consumer. -/
def logConsumer (x : Session) (level : Level) (message : String) (fields : List (String × FieldValue)) : Session :=
  { x with hooks := { x.hooks with telemetry := x.hooks.telemetry.log .consumer level message fields } }

/-- Takes the oldest event, handles it and releases it. -/
def handleNext? (x : Session) : Option Session :=
  x.hooks.queue.take?.map fun (e, queue) =>
    { x with hooks := { x.hooks with queue, telemetry := x.hooks.telemetry.tellConsumed e.summary } }

/-- Handles at most `n` events, as long as there are some, and says how many. -/
def handleSome : (n : Nat) → Session → Nat × Session
  | 0, x => (0, x)
  | n + 1, x =>
    match x.handleNext? with
    | none => (0, x)
    | some x =>
      let (k, x) := handleSome n x
      (k + 1, x)

/-- Handles every event that is queued. -/
def handleAll (x : Session) : Nat × Session := handleSome x.hooks.queue.events.length x

/-- The receiver goes away. -/
def leave (x : Session) : Session :=
  ⟨x.hooks.setQueue x.hooks.queue.abandon, { x.receiver with alive := false }⟩

end Session

namespace Consumer

/-- How far a consumer task is: it waits for the next event, or it has ended; either way with the number of
    events that it handled. -/
inductive State where
  | waiting (consumed : Nat)
  | ended (consumed : Nat)
deriving DecidableEq, Repr

/-- The end of the stream: no event is left and none can come. -/
def exhaust (consumed : Nat) (x : Session) : Nat × Session :=
  (consumed, (x.logConsumer .debug "all capture producers gone, consumer exiting" []).leave)

/-- Runs until it waits. `sourced` says that someone can still commit. -/
def run (sourced : Bool) (consumed : Nat) (x : Session) : State × Session :=
  let (n, x) := x.handleAll
  if x.hooks.queue.closed || !sourced then
    let (consumed, x) := exhaust (consumed + n) x
    (.ended consumed, x)
  else (.waiting (consumed + n), x)

/-- Closes the queue, handles what is left, and ends. -/
def drain (consumed : Nat) (x : Session) : Nat × Session :=
  let (n, x) := { x with hooks := x.hooks.setQueue x.hooks.queue.close }.handleAll
  (consumed + n,
    (x.logConsumer .debug "capture consumer drained" [("consumed", .number (consumed + n))]).leave)

/-- Runs to its end after the signal to shut down. As long as an event is ready the task may pick it before
    the signal: it does so for each true pick, and the first false one picks the signal. -/
def shutDown : (picks : List Bool) → (consumed : Nat) → Session → Nat × Session
  | true :: picks, consumed, x =>
    match x.handleNext? with
    | some x => shutDown picks (consumed + 1) x
    | none => drain consumed x
  | _, consumed, x => drain consumed x

end Consumer
end FrameSentry
