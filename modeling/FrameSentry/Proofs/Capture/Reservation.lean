import FrameSentry.Proofs.Capture.EndOfStream

/-! When a reservation succeeds. A queue looks at a size three times: whether the capacity and one reservation can hold
    it at all, whether the consumer is still there, and whether the budget has it left. So a size beyond the capacity is
    refused as too large even where the queue is closed; any other size that one reservation can have is refused as
    closed just when the consumer was closed or dropped, and as too large just when the open queue has less left. -/

namespace FrameSentry

/-! ### One reservation -/

namespace Queue
variable {q : Queue} {n : Nat}

/-- On an open queue what is not there is refused, and so is a size beyond the capacity on any. -/
theorem reserve_of_short (hn : q.available < n) (h : q.capacity < n ∨ q.closed = false) :
    q.reserve n = .error (.bufferFull n q.available) := by
  rcases h with hcapacity | hopen
  · simp [reserve, hcapacity]
  · simp [reserve, hopen, hn]

theorem reserve_eq_ok (hn : n < reservationLimit) (hq : q.available ≤ q.capacity) :
    (∃ slot q', q.reserve n = .ok (slot, q')) ↔ q.closed = false ∧ n ≤ q.available := by
  constructor
  · rintro ⟨slot, q', h⟩
    obtain ⟨hopen, hroom, -, -⟩ := reserve_ok h
    exact ⟨hopen, hroom⟩
  · rintro ⟨hopen, hroom⟩
    rw [reserve_of_lt hn, if_neg (by omega), if_neg (by simp [hopen]), if_neg (by omega)]
    exact ⟨_, _, rfl⟩

theorem reserve_eq_full (hn : n < reservationLimit) (hq : q.available ≤ q.capacity) :
    q.reserve n = .error (.bufferFull n q.available) ↔ q.available < n ∧ (q.capacity < n ∨ q.closed = false) := by
  refine ⟨fun h => ?_, fun ⟨hshort, hrefused⟩ => reserve_of_short hshort hrefused⟩
  by_cases hfits : n ≤ q.capacity
  · cases hclosed : q.closed with
    | true =>
      rw [(reserve_eq_closed hn).mpr ⟨hclosed, hfits⟩] at h
      cases h
    | false =>
      refine ⟨Nat.lt_of_not_le fun hroom => ?_, Or.inr rfl⟩
      obtain ⟨slot, q', hok⟩ := (reserve_eq_ok hn hq).mpr ⟨hclosed, hroom⟩
      rw [hok] at h
      cases h
  · exact ⟨by omega, Or.inl (Nat.lt_of_not_le hfits)⟩

end Queue

/-! ### Who closes the queue -/

namespace Receiver

theorem dropHeld_alive (r : Receiver) (q : Queue) (id : String) : (r.dropHeld q id).1.alive = r.alive := by
  unfold dropHeld
  split <;> rfl

/-- All that the consumer does but to close and to go away leaves the queue as open as it was. -/
theorem step_leaves_open (r : Receiver) (q : Queue) (sourced : Bool) {s : ReceiverStep} (hclose : s ≠ .close)
    (hdrop : s ≠ .drop) :
    (r.step q sourced s).2.2.closed = q.closed ∧ (r.step q sourced s).2.1.alive = r.alive := by
  have htake : ∀ {e q'}, q.take? = some (e, q') → q'.closed = q.closed := fun h => by
    obtain ⟨_, -, rfl⟩ := Queue.take?_some h
    rfl
  unfold step
  split
  case h_1 id =>
    unfold letGo
    split
    · exact ⟨rfl, rfl⟩
    · exact ⟨r.dropHeld_closed q id, r.dropHeld_alive q id⟩
  case h_2 => exact ⟨rfl, rfl⟩
  case h_3 =>
    split
    · exact ⟨rfl, rfl⟩
    · rename_i h
      exact ⟨htake h, rfl⟩
  case h_4 =>
    unfold poll
    split
    · rename_i h
      exact ⟨htake h, rfl⟩
    · exact ⟨rfl, rfl⟩
  case h_5 id _ =>
    unfold hold
    split
    · exact ⟨rfl, rfl⟩
    · rename_i h
      obtain ⟨_, -, rfl⟩ := Queue.receive?_some h
      exact ⟨r.dropHeld_closed _ id, r.dropHeld_alive _ id⟩
  case h_6 => exact ⟨rfl, rfl⟩
  case h_7 => exact absurd rfl hclose
  case h_8 => exact absurd rfl hdrop

end Receiver

namespace Exchange
variable {x : Exchange}

/-- Among these steps the consumer is closed or dropped. -/
def Ends (steps : List ExchangeStep) : Prop := .consumer .close ∈ steps ∨ .consumer .drop ∈ steps

instance (steps : List ExchangeStep) : Decidable (Ends steps) := inferInstanceAs (Decidable (_ ∨ _))

theorem ends_cons {s : ExchangeStep} {steps : List ExchangeStep} :
    Ends (s :: steps) ↔ (s = .consumer .close ∨ s = .consumer .drop) ∨ Ends steps := by
  simp only [Ends, List.mem_cons, eq_comm (b := s)]
  exact or_or_or_comm

/-- A consumer that is gone has closed the queue. -/
def Shuts (x : Exchange) : Prop := x.receiver.alive = false → x.queue.closed = true

theorem Shuts.step (hx : x.Shuts) (s : ExchangeStep) : (x.step s).2.Shuts ∧
    ((x.step s).2.queue.closed = true ↔ x.queue.closed = true ∨ s = .consumer .close ∨ s = .consumer .drop) := by
  cases s with
  | producer s =>
    obtain ⟨hclosed, hreceiver⟩ := x.produce_leaves s
    refine ⟨fun hgone => hclosed.trans (hx (hreceiver ▸ hgone)), ?_⟩
    show (x.produce s).2.queue.closed = true ↔ _
    simp [hclosed]
  | consumer s =>
    by_cases hends : s = .close ∨ s = .drop
    · -- A consumer that is gone does nothing, but then the queue is closed already.
      have hclosed : (x.receiver.step x.queue x.isSourced s).2.2.closed = true := by
        cases halive : x.receiver.alive with
        | false => exact x.receiver.step_closed (hx halive) x.isSourced s
        | true => rcases hends with rfl | rfl <;> simp [Receiver.step, halive, Queue.close, Queue.abandon]
      exact ⟨fun _ => hclosed, iff_of_true hclosed (Or.inr (by simpa using hends))⟩
    · obtain ⟨hclose, hdrop⟩ := not_or.mp hends
      obtain ⟨hclosed, halive⟩ := x.receiver.step_leaves_open x.queue x.isSourced hclose hdrop
      refine ⟨fun hgone => hclosed.trans (hx (halive ▸ hgone)), ?_⟩
      show (x.receiver.step x.queue x.isSourced s).2.2.closed = true ↔ _
      simp [hclosed, hclose, hdrop]

/-- The queue is closed just when the consumer was closed or dropped. -/
theorem Shuts.perform (hx : x.Shuts) (steps : List ExchangeStep) :
    (x.perform steps).queue.closed = true ↔ x.queue.closed = true ∨ Ends steps := by
  induction steps generalizing x with
  | nil => simp [Exchange.perform, Ends]
  | cons s rest ih =>
    obtain ⟨hstep, hclosed⟩ := hx.step s
    rw [ends_cons, ← or_assoc, ← hclosed]
    exact ih hstep

theorem closed_perform (capacity : Nat) (producer : String) (steps : List ExchangeStep) :
    ((create capacity producer).perform steps).queue.closed = true ↔ Ends steps := by
  have hcreate : (create capacity producer).Shuts := nofun
  rw [hcreate.perform]
  exact or_iff_right Bool.false_ne_true

theorem available_le_capacity (capacity : Nat) (producer : String) (steps : List ExchangeStep) :
    ((create capacity producer).perform steps).queue.available ≤
      ((create capacity producer).perform steps).queue.capacity := by
  have hbalance := ((short_create capacity producer).perform steps).total
  have hcapacity := ((short_create capacity producer).perform steps).capacity
  unfold Queue.free at hbalance
  omega

/-- A reservation succeeds just when it is said to, but for a size that one reservation cannot have. After any steps of
    any producers and the consumer, a size beyond the capacity is refused as too large, whether or not the queue is
    closed; any other is refused as closed just when the consumer was closed or dropped, succeeds just when it was not
    and so much is available, and else is refused as too large for what is available. A success takes that many bytes of
    the budget, and nothing else; a failure leaves everything as it was. -/
theorem reservation_exact (capacity : Nat) (producer : String) (steps : List ExchangeStep) (size : Nat) :
    let x := (create capacity producer).perform steps
    let q := x.queue
    (size < Queue.reservationLimit →
        (q.reserve size = .error .closed ↔ Ends steps ∧ size ≤ q.capacity) ∧
          ((∃ slot q', q.reserve size = .ok (slot, q')) ↔ ¬ Ends steps ∧ size ≤ q.available) ∧
          (q.reserve size = .error (.bufferFull size q.available) ↔
            q.available < size ∧ (q.capacity < size ∨ ¬ Ends steps))) ∧
      (q.available < size → q.capacity < size ∨ ¬ Ends steps → q.reserve size = .error (.bufferFull size q.available)) ∧
      (∀ slot q', q.reserve size = .ok (slot, q') →
        slot.reserved = size ∧ q' = { q with available := q.available - size } ∧ q'.available + size = q.available) ∧
      (∀ e, q.reserve size = .error e →
        (e = .closed ∨ e = .bufferFull size q.available) ∧
          ∀ id name, (x.produce (.reserve id size name)).2 = x) := by
  intro x q
  have hends : q.closed = true ↔ Ends steps := closed_perform capacity producer steps
  have hopen : ¬ Ends steps ↔ q.closed = false := by rw [← hends, Bool.not_eq_true]
  have hcapacity : q.available ≤ q.capacity := available_le_capacity capacity producer steps
  refine ⟨fun hsize => ?_, fun hshort hrefused => ?_, fun slot q' hreserve => ?_, fun e hreserve => ⟨?_, fun id name => ?_⟩⟩
  · rw [hopen, ← hends]
    exact ⟨Queue.reserve_eq_closed hsize, Queue.reserve_eq_ok hsize hcapacity, Queue.reserve_eq_full hsize hcapacity⟩
  · rw [hopen] at hrefused
    exact Queue.reserve_of_short hshort hrefused
  · obtain ⟨-, hroom, rfl, rfl⟩ := Queue.reserve_ok hreserve
    exact ⟨rfl, rfl, Nat.sub_add_cancel hroom⟩
  · exact (Queue.reserve_error hreserve).symm.imp_left And.right
  · have hfailed : x.reserve id size = (.failed e, x) := by
      unfold reserve
      rw [show x.queue.reserve size = .error e from hreserve]
    rcases x.withProducer_cases name (x.reserve id size) with heq | heq
    · rw [produce, heq, hfailed]
    · rw [produce, heq]

/-- On a queue of 64 bytes that the consumer has closed, a reservation of 65 is refused as too large and not as closed.
    And of 2^33 bytes that are available, 2^32 are refused as too many. -/
theorem reservation_refused_otherwise :
    let closed := (create 64 "main").perform [.consumer .close]
    let large := create (1 <<< 33) "main"
    Ends [.consumer .close] ∧ closed.queue.reserve 65 = .error (.bufferFull 65 64) ∧
      ¬ (closed.queue.reserve 65 = .error .closed ↔ Ends [.consumer .close]) ∧
      large.queue.available = 1 <<< 33 ∧
      large.queue.reserve (1 <<< 32) = .error (.bufferFull (1 <<< 32) (1 <<< 33)) := by
  decide

end Exchange
end FrameSentry
