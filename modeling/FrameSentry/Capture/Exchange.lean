import FrameSentry.Capture.Receiver

/-! A capture queue with everything that is alive around it. Any number of named producers reserve slots and
    commit them; one receiver takes the events. The stream of events has ended when nothing is queued and
    nothing more can come: the queue is closed, or every producer and every slot is gone. -/

namespace FrameSentry

/-- The queue, its two sides, and the slots that are not committed. Every name is that of at most one
    producer, and of at most one slot. -/
structure Exchange where
  queue : Queue
  producers : List String
  slots : List (String × Slot)
  receiver : Receiver
deriving DecidableEq, Repr

/-- What the producers' side does; `producer` is the name of the one that does it. -/
inductive ProducerStep where
  | reserve (id : String) (size : Nat) (producer : String)
  | fill (id : String) (length : UInt32) (payload : Bytes)
  | commit (id : String)
  | discard (id : String)
  | enqueue (length : UInt32) (payload : Bytes) (producer : String)
  | clone (id : String) (producer : String)
  | drop (producer : String)
deriving DecidableEq, Repr

/-- What a step of the producers' side answers. -/
inductive ProducerReply where
  | missing
  | done
  | reserved (slot : Slot)
  | filled (failure : Option CaptureError) (slot : Slot)
  | failed (cause : CaptureError)
deriving DecidableEq, Repr

/-- A step of either side. -/
inductive ExchangeStep where
  | consumer (step : ReceiverStep)
  | producer (step : ProducerStep)
deriving DecidableEq, Repr

/-- What a step answers. -/
inductive ExchangeReply where
  | consumer (reply : ReceiverReply)
  | producer (reply : ProducerReply)
deriving DecidableEq, Repr

/-- The text of a slot. -/
def Slot.text (s : Slot) : String :=
  s!"CaptureSlot \x7b reserved: {s.reserved}, length: {s.length.toNat} \x7d"

/-- The text of a producer's side of the queue. -/
def Queue.text (q : Queue) : String :=
  s!"CaptureProducer \x7b capacity: {q.capacity}, available: {q.available} \x7d"

namespace Exchange

/-- A queue with its receiver and one producer, whose name is given. -/
def create (capacity : Nat) (producer : String) : Exchange :=
  { queue := .create capacity, producers := [producer], slots := [], receiver := .create }

/-- A producer, or a slot that one of them left behind, can still commit. -/
def isSourced (x : Exchange) : Bool := !x.producers.isEmpty || !x.slots.isEmpty

/-- Gives the slot of a name up, if there is one. -/
def dropSlot (x : Exchange) (id : String) : Exchange :=
  match pick? id x.slots with
  | none => x
  | some (slot, slots) => { x with queue := x.queue.discard slot, slots }

theorem dropSlot_cases (x : Exchange) (id : String) :
    (x.slots.lookup id = none ∧ x.dropSlot id = x) ∨
      ∃ slot, x.slots.lookup id = some slot ∧
        x.dropSlot id = { x with queue := x.queue.discard slot, slots := x.slots.filter (·.1 != id) } := by
  unfold dropSlot pick?
  cases x.slots.lookup id with
  | none => exact Or.inl ⟨rfl, rfl⟩
  | some slot => exact Or.inr ⟨slot, rfl, rfl⟩

theorem dropSlot_slots (x : Exchange) (id : String) : (x.dropSlot id).slots = x.slots.filter (·.1 != id) := by
  rcases x.dropSlot_cases id with ⟨hnone, heq⟩ | ⟨slot, -, heq⟩
  · rw [heq, filter_of_not_named (not_named_of_lookup hnone)]
  · rw [heq]

/-- One step of the consumer's side. -/
def consume (x : Exchange) (s : ReceiverStep) : ReceiverReply × Exchange :=
  let (reply, receiver, queue) := x.receiver.step x.queue x.isSourced s
  (reply, { x with receiver, queue })

/-- The answer of an operation that only succeeds or fails. -/
def replyOf : Except CaptureError Unit → ProducerReply
  | .ok () => .done
  | .error cause => .failed cause

/-- Reserves a slot under a name. It takes the place of the slot with that name, which is given up only after
    the new bytes are reserved. -/
def reserve (x : Exchange) (id : String) (size : Nat) : ProducerReply × Exchange :=
  match x.queue.reserve size with
  | .error cause => (.failed cause, x)
  | .ok (slot, queue) =>
    let x := { x with queue }.dropSlot id
    (.reserved slot, { x with slots := (id, slot) :: x.slots })

/-- Fills the slot of a name. -/
def fill (x : Exchange) (id : String) (length : UInt32) (payload : Bytes) : ProducerReply × Exchange :=
  match x.slots.lookup id with
  | none => (.missing, x)
  | some slot =>
    match slot.fill length payload with
    | .error cause => (.filled (some cause) slot, x)
    | .ok slot => (.filled none slot, { x with slots := (id, slot) :: x.slots.filter (·.1 != id) })

/-- Commits the slot of a name, which is gone either way. -/
def commit (x : Exchange) (id : String) : ProducerReply × Exchange :=
  match pick? id x.slots with
  | none => (.missing, x)
  | some (slot, slots) =>
    let (result, queue) := x.queue.commit slot
    (replyOf result, { x with queue, slots })

/-- What a producer does, if there is one of that name. -/
def withProducer (x : Exchange) (producer : String) (act : ProducerReply × Exchange) :
    ProducerReply × Exchange :=
  if x.producers.contains producer then act else (.missing, x)

/-- One step of the producers' side. -/
def produce (x : Exchange) (s : ProducerStep) : ProducerReply × Exchange :=
  match s with
  | .reserve id size producer => x.withProducer producer (x.reserve id size)
  | .fill id length payload => x.fill id length payload
  | .commit id => x.commit id
  | .discard id => if (x.slots.lookup id).isSome then (.done, x.dropSlot id) else (.missing, x)
  | .enqueue length payload producer =>
    let (result, queue) := x.queue.enqueue length payload
    x.withProducer producer (replyOf result, { x with queue })
  | .clone id producer =>
    x.withProducer producer (.done, { x with producers := id :: x.producers.filter (· != id) })
  | .drop producer =>
    x.withProducer producer (.done, { x with producers := x.producers.filter (· != producer) })

/-- One step of either side. -/
def step (x : Exchange) : ExchangeStep → ExchangeReply × Exchange
  | .consumer s => let (reply, x) := x.consume s; (.consumer reply, x)
  | .producer s => let (reply, x) := x.produce s; (.producer reply, x)

/-- A run of steps, with what each answers and the state after it. -/
def run (x : Exchange) : List ExchangeStep → List (ExchangeReply × Exchange)
  | [] => []
  | s :: rest =>
    let (reply, x) := x.step s
    (reply, x) :: x.run rest

end Exchange
end FrameSentry
