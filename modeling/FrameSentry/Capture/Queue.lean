import FrameSentry.Capture.Record
import FrameSentry.Error

/-! The capture queue. It has a budget of bytes. A producer reserves bytes of the budget for a slot, fills
    the slot and commits it; the event then waits in the queue, and its bytes return to the budget when the
    event is released. No operation waits: a reservation that does not fit is refused at once. Once the
    consumer is closed nothing more is reserved or committed, but what was committed is still received. -/

namespace FrameSentry

/-- A committed frame: its length, the bytes that were captured, and what it takes of the budget. -/
structure Event where
  length : UInt32
  payload : Bytes
  cost : Nat
deriving DecidableEq, Repr

/-- A reservation that is not committed yet. -/
structure Slot where
  reserved : Nat
  length : UInt32
  payload : Bytes
deriving DecidableEq, Repr

/-- The state that the producers and the consumer share. -/
structure Queue where
  capacity : Nat
  available : Nat
  closed : Bool
  events : List Event
deriving DecidableEq, Repr

namespace Slot

/-- The bytes of a payload that the slot has room for. -/
def room (s : Slot) : Nat := s.reserved - Record.headerSize

/-- Puts a frame into the slot, in the place of what it held. A payload that does not fit changes
    nothing. -/
def fill (s : Slot) (length : UInt32) (payload : Bytes) : Except CaptureError Slot :=
  if s.room < payload.length then .error (.copyFailure payload.length s.room)
  else .ok { s with length, payload }

end Slot

namespace Queue

/-- A budget is never larger than this. -/
def capacityLimit : Nat := (1 <<< 61) - 1

/-- One reservation is a word of 32 bits. -/
def reservationLimit : Nat := 1 <<< 32

/-- An open and empty queue. -/
def create (capacity : Nat) : Queue :=
  { capacity := min capacity capacityLimit, available := min capacity capacityLimit, closed := false, events := [] }

/-- The queue with `n` bytes back in its budget. -/
def refund (q : Queue) (n : Nat) : Queue := { q with available := q.available + n }

/-- Takes `n` bytes of the budget for an empty slot. A size that no empty budget could serve is refused
    before the queue is asked whether it is closed. -/
def reserve (q : Queue) (n : Nat) : Except CaptureError (Slot × Queue) :=
  if q.capacity < n || reservationLimit ≤ n then .error (.bufferFull n q.available)
  else if q.closed then .error .closed
  else if q.available < n then .error (.bufferFull n q.available)
  else .ok (⟨n, 0, []⟩, { q with available := q.available - n })

/-- Gives a slot up; its bytes return to the budget. -/
def discard (q : Queue) (s : Slot) : Queue := q.refund s.reserved

/-- Appends the slot's event. On a closed queue the slot is given up instead. -/
def commit (q : Queue) (s : Slot) : Except CaptureError Unit × Queue :=
  if q.closed then (.error .closed, q.discard s)
  else (.ok (), { q with events := q.events ++ [⟨s.length, s.payload, s.reserved⟩] })

/-- Reserves, fills and commits at once; a failure leaves the queue as it was. -/
def enqueue (q : Queue) (length : UInt32) (payload : Bytes) : Except CaptureError Unit × Queue :=
  match q.reserve (Record.headerSize + payload.length) with
  | .error e => (.error e, q)
  | .ok (slot, q) =>
    match slot.fill length payload with
    | .error e => (.error e, q.discard slot)
    | .ok slot => q.commit slot

/-- A reservation takes nothing but bytes of the budget, and only of an open queue. -/
theorem reserve_ok {q q' : Queue} {n : Nat} {slot : Slot} (h : q.reserve n = .ok (slot, q')) :
    q.closed = false ∧ n ≤ q.available ∧ slot = ⟨n, 0, []⟩ ∧ q' = { q with available := q.available - n } := by
  unfold reserve at h
  split at h
  · cases h
  split at h
  · cases h
  rename_i hclosed
  split at h <;> cases h
  rename_i hroom
  exact ⟨by simpa using hclosed, Nat.le_of_not_lt hroom, rfl, rfl⟩

/-- It is an error that the queue is closed only if it is; any other error is that it is full. -/
theorem reserve_error {q : Queue} {n : Nat} {e : CaptureError} (h : q.reserve n = .error e) :
    e = .bufferFull n q.available ∨ (q.closed = true ∧ e = .closed) := by
  unfold reserve at h
  split at h
  · cases h
    exact Or.inl rfl
  split at h
  · cases h
    exact Or.inr ⟨by assumption, rfl⟩
  split at h <;> cases h
  exact Or.inl rfl

/-- The reservation of a size that a word of 32 bits can hold. -/
theorem reserve_of_lt {q : Queue} {n : Nat} (hn : n < reservationLimit) : q.reserve n =
    if q.capacity < n then .error (.bufferFull n q.available)
    else if q.closed then .error .closed
    else if q.available < n then .error (.bufferFull n q.available)
    else .ok (⟨n, 0, []⟩, { q with available := q.available - n }) := by
  simp [reserve, Nat.not_le_of_lt hn]

theorem reserve_eq_closed {q : Queue} {n : Nat} (hn : n < reservationLimit) :
    q.reserve n = .error .closed ↔ q.closed = true ∧ n ≤ q.capacity := by
  rw [reserve_of_lt hn]
  split <;> grind

theorem reserve_refused {q : Queue} (hq : q.closed = true) (n : Nat) : ∃ e, q.reserve n = .error e := by
  cases hreserve : q.reserve n with
  | error e => exact ⟨e, rfl⟩
  | ok reserved =>
    obtain ⟨slot, q'⟩ := reserved
    rw [(reserve_ok hreserve).1] at hq
    cases hq

theorem commit_refused {q : Queue} (hq : q.closed = true) (s : Slot) : q.commit s = (.error .closed, q.discard s) :=
  if_pos hq

/-- To give up what was just reserved undoes the reservation. -/
theorem discard_reserved {q q' : Queue} {n : Nat} {slot : Slot} (h : q.reserve n = .ok (slot, q')) :
    q'.discard slot = q := by
  obtain ⟨-, hroom, rfl, rfl⟩ := reserve_ok h
  simp [discard, refund, Nat.sub_add_cancel hroom]

/-- A payload fits into the slot that was reserved for it. -/
theorem fill_reserved {q q' : Queue} {slot : Slot} (payload : Bytes)
    (h : q.reserve (Record.headerSize + payload.length) = .ok (slot, q')) (length : UInt32) :
    slot.fill length payload = .ok { slot with length, payload } := by
  obtain ⟨-, -, rfl, -⟩ := reserve_ok h
  exact if_neg (by simp [Slot.room])

/-- A commit that follows its reservation succeeds. -/
theorem commit_reserved {q q' : Queue} {n : Nat} {slot : Slot} (h : q.reserve n = .ok (slot, q')) (length : UInt32)
    (payload : Bytes) : q'.commit { slot with length, payload } =
      (.ok (), { q with available := q.available - n, events := q.events ++ [⟨length, payload, n⟩] }) := by
  obtain ⟨hopen, -, rfl, rfl⟩ := reserve_ok h
  simp [commit, hopen]

theorem enqueue_of_error {q : Queue} {payload : Bytes} {e : CaptureError} (length : UInt32)
    (h : q.reserve (Record.headerSize + payload.length) = .error e) : q.enqueue length payload = (.error e, q) := by
  simp only [enqueue, h]

/-- A payload is put into the queue whenever room for it can be reserved. -/
theorem enqueue_cases (q : Queue) (length : UInt32) (payload : Bytes) :
    (∃ e, q.reserve (Record.headerSize + payload.length) = .error e ∧ q.enqueue length payload = (.error e, q)) ∨
      (q.closed = false ∧ Record.headerSize + payload.length ≤ q.available ∧ q.enqueue length payload = (.ok (),
        { q with
          available := q.available - (Record.headerSize + payload.length)
          events := q.events ++ [⟨length, payload, Record.headerSize + payload.length⟩] })) := by
  cases hr : q.reserve (Record.headerSize + payload.length) with
  | error e => exact Or.inl ⟨e, rfl, enqueue_of_error length hr⟩
  | ok r =>
    obtain ⟨slot, q'⟩ := r
    obtain ⟨hopen, hroom, -, -⟩ := reserve_ok hr
    refine Or.inr ⟨hopen, hroom, ?_⟩
    simp only [enqueue, hr, fill_reserved payload hr, commit_reserved hr]

/-- Nothing is put into a closed queue. -/
theorem enqueue_of_closed {q : Queue} (hq : q.closed = true) (length : UInt32) (payload : Bytes) :
    (q.enqueue length payload).2 = q := by
  rcases q.enqueue_cases length payload with ⟨e, -, heq⟩ | ⟨hopen, -, -⟩
  · rw [heq]
  · rw [hq] at hopen
    cases hopen

/-- What is put into a queue does not close it. -/
theorem enqueue_closed (q : Queue) (length : UInt32) (payload : Bytes) :
    (q.enqueue length payload).2.closed = q.closed := by
  rcases q.enqueue_cases length payload with ⟨e, -, heq⟩ | ⟨-, -, heq⟩ <;> rw [heq]

theorem enqueue_ne_closed {q : Queue} (hq : q.closed = false) (length : UInt32) (payload : Bytes) :
    (q.enqueue length payload).1 ≠ .error .closed := by
  rcases q.enqueue_cases length payload with ⟨e, hreserve, heq⟩ | ⟨-, -, heq⟩
  · rw [heq]
    rcases reserve_error hreserve with rfl | ⟨hclosed, -⟩
    · nofun
    · rw [hq] at hclosed
      cases hclosed
  · rw [heq]
    nofun

/-- A payload is put into the queue, or there is no room for it, or the queue is closed. -/
theorem enqueue_fst_cases (q : Queue) (length : UInt32) (payload : Bytes) :
    (q.enqueue length payload).1 = .ok () ∨
      (∃ n available, (q.enqueue length payload).1 = .error (.bufferFull n available)) ∨
      (q.enqueue length payload).1 = .error .closed := by
  rcases q.enqueue_cases length payload with ⟨e, hreserve, heq⟩ | ⟨-, -, heq⟩
  · rcases reserve_error hreserve with rfl | ⟨-, rfl⟩
    · exact Or.inr (Or.inl ⟨_, _, congrArg Prod.fst heq⟩)
    · exact Or.inr (Or.inr (congrArg Prod.fst heq))
  · exact Or.inl (congrArg Prod.fst heq)

/-- Takes the oldest event out of the queue; its bytes stay out of the budget until it is released. -/
def receive? (q : Queue) : Option (Event × Queue) :=
  match q.events with
  | [] => none
  | e :: rest => some (e, { q with events := rest })

theorem receive?_some {q q' : Queue} {e : Event} (h : q.receive? = some (e, q')) :
    ∃ rest, q.events = e :: rest ∧ q' = { q with events := rest } := by
  unfold receive? at h
  split at h <;> cases h
  exact ⟨_, by assumption, rfl⟩

/-- Gives a received event up; its bytes return to the budget. -/
def release (q : Queue) (e : Event) : Queue := q.refund e.cost

/-- Receives the oldest event and releases it. -/
def take? (q : Queue) : Option (Event × Queue) :=
  q.receive?.map fun (e, q) => (e, q.release e)

theorem take?_some {q q' : Queue} {e : Event} (h : q.take? = some (e, q')) :
    ∃ rest, q.events = e :: rest ∧ q' = { q with events := rest }.release e := by
  obtain ⟨⟨e', q₁⟩, hreceive, hrelease⟩ := Option.map_eq_some_iff.mp h
  cases hrelease
  obtain ⟨rest, hevents, rfl⟩ := receive?_some hreceive
  exact ⟨rest, hevents, rfl⟩

/-- No reservation or commit succeeds from here on. -/
def close (q : Queue) : Queue := { q with closed := true }

/-- What the events in the queue take of the budget. -/
def queuedCost (q : Queue) : Nat := q.events.foldr (fun e n => e.cost + n) 0

/-- The consumer goes away: the queue closes and the events in it are released. -/
def abandon (q : Queue) : Queue :=
  { q with closed := true, events := [], available := q.available + q.queuedCost }

end Queue
end FrameSentry
