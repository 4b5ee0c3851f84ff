import FrameSentry.Capture.Receiver
import FrameSentry.Hook

/-! A session of hooks: calls of the hooks that share one queue, one set of counters and one sink, and in
    between steps of the receiver of that queue. -/

namespace FrameSentry

/-- The state of the hooks, and the receiver of their queue. -/
structure Session where
  hooks : HookState
  receiver : Receiver
deriving DecidableEq, Repr

/-- A call of a hook, or a step of the receiver. -/
inductive SessionStep where
  | onFrame (frame : Frame)
  | handle (frame : Frame)
  | enforce (frame : Frame)
  | forward (sample : Bytes)
  | consume (step : ReceiverStep)
deriving DecidableEq, Repr

/-- What a step answers. -/
inductive SessionReply where
  | outcome (outcome : CaptureOutcome)
  | verdict (verdict : Verdict)
  | forwarded (failure : Option CaptureError)
  | consumer (reply : ReceiverReply)
deriving DecidableEq, Repr

namespace Session

/-- An empty queue and no counts. -/
def create (capacity : Nat) : Session :=
  ⟨⟨.create capacity, .zero, .empty, []⟩, .create⟩

/-- A step of the receiver; the hooks keep a producer of the queue alive. -/
def consume (x : Session) (s : ReceiverStep) : ReceiverReply × Session :=
  let (reply, receiver, queue) := x.receiver.step x.hooks.queue true s
  (reply, ⟨x.hooks.setQueue queue, receiver⟩)

/-- One step. -/
def step (h : HookSettings) (x : Session) : SessionStep → SessionReply × Session
  | .onFrame frame => let (r, hooks) := h.onFrame frame x.hooks; (.outcome r, { x with hooks })
  | .handle frame => let (r, hooks) := h.handle frame x.hooks; (.verdict r, { x with hooks })
  | .enforce frame => let (r, hooks) := h.enforce frame x.hooks; (.verdict r, { x with hooks })
  | .forward sample =>
    match h.forward sample x.hooks with
    | (.ok (), hooks) => (.forwarded none, { x with hooks })
    | (.error cause, hooks) => (.forwarded (some cause), { x with hooks })
  | .consume s => let (r, x) := x.consume s; (.consumer r, x)

theorem step_forward (h : HookSettings) (x : Session) (sample : Bytes) :
    (x.step h (.forward sample)).2 = { x with hooks := (h.forward sample x.hooks).2 } := by
  simp only [step]
  split <;> rename_i hresult <;> rw [hresult]

/-- A run of steps, with what each answers and the state after it. -/
def run (h : HookSettings) (x : Session) : List SessionStep → List (SessionReply × Session)
  | [] => []
  | s :: rest =>
    let (reply, x) := x.step h s
    (reply, x) :: x.run h rest

end Session
end FrameSentry
