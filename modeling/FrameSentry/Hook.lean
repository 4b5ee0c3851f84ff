import FrameSentry.Diagnostics
import FrameSentry.WatchList

/-! The hooks that see each frame in user memory. Both classify it within its declared length and match it
    against the watch list. The enforcing hook answers a verdict. The observing hook captures a matching
    frame into the queue and always accepts. A forwarder puts the kernel's records into the queue. -/

namespace FrameSentry

/-- A frame in memory, and the length that it is declared to have on the wire. -/
structure Frame where
  data : Bytes
  length : UInt32
deriving DecidableEq, Repr

/-- A frame whose declared length is that of its data. -/
def Frame.ofData (data : Bytes) : Frame := ⟨data, UInt32.ofNat (min data.length 4294967295)⟩

/-- What the hooks of one engine share and change. -/
structure HookState where
  queue : Queue
  counters : Counters
  telemetry : Telemetry
  reports : List Diagnostic
deriving DecidableEq, Repr

/-- What the hooks of one engine are set to. -/
structure HookSettings where
  ports : List UInt16
  maxCapture : Nat
  sink : Sink
deriving DecidableEq, Repr

/-- What becomes of a frame that the observing hook sees. -/
inductive CaptureOutcome where
  | skipped (classification : Classification)
  | captured (length : UInt32) (captured : Nat)
  | dropped (cause : CaptureError)
deriving DecidableEq, Repr

namespace HookState

/-- Sends a report to a sink. -/
def report (s : HookState) (sink : Sink) (d : Diagnostic) : HookState :=
  match sink with
  | .recording => { s with reports := s.reports ++ [d] }
  | .telling => { s with telemetry := s.telemetry.tell d }
  | .silent => s

def count (s : HookState) (o : Outcome) : HookState := { s with counters := s.counters.bump o }

def setQueue (s : HookState) (queue : Queue) : HookState := { s with queue }

@[simp] theorem report_queue (s : HookState) (sink : Sink) (d : Diagnostic) : (s.report sink d).queue = s.queue := by
  cases sink <;> rfl

@[simp] theorem report_counters (s : HookState) (sink : Sink) (d : Diagnostic) :
    (s.report sink d).counters = s.counters := by
  cases sink <;> rfl

@[simp] theorem count_queue (s : HookState) (o : Outcome) : (s.count o).queue = s.queue := rfl

@[simp] theorem count_counters (s : HookState) (o : Outcome) : (s.count o).counters = s.counters.bump o := rfl

@[simp] theorem setQueue_queue (s : HookState) (queue : Queue) : (s.setQueue queue).queue = queue := rfl

@[simp] theorem setQueue_counters (s : HookState) (queue : Queue) : (s.setQueue queue).counters = s.counters := rfl

end HookState

/-- What the frame is taken for, within its declared length and its data. -/
def Frame.classification (frame : Frame) : Classification := frame.data.classifyWithin frame.length.toNat

namespace HookSettings

/-- Classifies and matches a frame, counting and reporting the outcome. -/
def observe (h : HookSettings) (frame : Frame) (s : HookState) : Classification × HookState :=
  let c := frame.classification
  match c with
  | .classified f =>
    if f.matchesPorts h.ports then (c, (s.count .matched).report h.sink (.matched f frame.length))
    else (c, (s.count .noMatch).report h.sink (.noMatch f))
  | c =>
    let s := match c.failure? with
      | some o => s.count o
      | none => s
    (c, s.report h.sink (.unclassified c frame.length))

/-- The enforcing hook: only a matching frame is accepted. -/
def enforce (h : HookSettings) (frame : Frame) (s : HookState) : Verdict × HookState :=
  let (c, s) := h.observe frame s
  let verdict := c.enforce h.ports
  (verdict, s.report h.sink (.verdict verdict))

/-- A capture that fails, with its report. -/
def drop (h : HookSettings) (cause : CaptureError) (s : HookState) : CaptureOutcome × HookState :=
  (.dropped cause, s.report h.sink (.captureFailed cause))

/-- How many bytes of a frame of this declared length are captured. -/
def copyLength (h : HookSettings) (length : UInt32) : Nat :=
  min length.toNat (Record.clampCapture h.maxCapture)

/-- Captures a matching frame: reserves room for the bytes to copy, copies them, commits. A frame whose data
    is shorter than that gives its reservation up. -/
def capture (h : HookSettings) (frame : Frame) (s : HookState) : CaptureOutcome × HookState :=
  let n := h.copyLength frame.length
  match s.queue.reserve (Record.headerSize + n) with
  | .error cause => h.drop cause (s.count .reserveFailed)
  | .ok (slot, queue) =>
    if frame.data.length < n then
      h.drop (.copyFailure n frame.data.length) ((s.setQueue (queue.discard slot)).count .copyFailed)
    else
      match slot.fill frame.length (frame.data.take n) with
      | .error cause => h.drop cause ((s.setQueue (queue.discard slot)).count .copyFailed)
      | .ok slot =>
        match queue.commit slot with
        | (.error cause, queue) => h.drop cause (s.setQueue queue)
        | (.ok (), queue) =>
          (.captured frame.length n,
            ((s.setQueue queue).count .captured).report h.sink (.captured frame.length n))

/-- The observing hook: a matching frame is captured, any other skipped. -/
def onFrame (h : HookSettings) (frame : Frame) (s : HookState) : CaptureOutcome × HookState :=
  let (c, s) := h.observe frame s
  if (c.matched? h.ports).isSome then h.capture frame s else (.skipped c, s)

/-- What the observing hook answers to the traffic path. -/
def handle (h : HookSettings) (frame : Frame) (s : HookState) : Verdict × HookState :=
  (.accept, (h.onFrame frame s).2)

/-- Puts a record of the kernel into the queue, cut to the limit. Only a closed queue is an error; a sample
    that is no record, or that does not fit, is reported and passed over. -/
def forward (h : HookSettings) (sample : Bytes) (s : HookState) : Except CaptureError Unit × HookState :=
  match Record.decode sample with
  | none => (.ok (), s.report h.sink (.malformedSample sample.length))
  | some (length, payload) =>
    let payload := payload.take (Record.clampCapture h.maxCapture)
    match s.queue.enqueue length payload with
    | (.ok (), queue) => (.ok (), (s.setQueue queue).report h.sink (.captured length payload.length))
    | (.error .closed, queue) => (.error .closed, s.setQueue queue)
    | (.error cause, queue) => (.ok (), (s.setQueue queue).report h.sink (.captureFailed cause))

end HookSettings
end FrameSentry
