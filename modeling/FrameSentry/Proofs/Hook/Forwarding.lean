import FrameSentry.Proofs.Capture.Reservation
import FrameSentry.Proofs.Hook.Attempt
import FrameSentry.Proofs.Hook.Books

/-! What becomes of a sample that is forwarded. Whatever its bytes are, it ends in one of four ways: it is too short to
    be a record, or part of it is queued, or there is no room for that part, or the queue would have had room but is
    closed. All but the last are reported once and are no failure, so that no sample stops those behind it. And of a
    record no more is queued than it declares; nor does any other call of a session queue more of a frame than its
    length. -/

namespace FrameSentry

/-! ### The part of a sample that is kept -/

namespace Record
variable {sample : Bytes}

/-- The part of a sample's payload that a limit on captures leaves. -/
def part (sample : Bytes) (limit : Nat) : Bytes :=
  (sample.drop headerSize).take (min sample.recordWord.toNat (clampCapture limit))

/-- What that part takes of the budget. -/
def charge (sample : Bytes) (limit : Nat) : Nat := headerSize + (part sample limit).length

theorem length_part (sample : Bytes) (limit : Nat) : (part sample limit).length =
    min sample.recordWord.toNat (min (clampCapture limit) (sample.length - headerSize)) := by
  rw [part, List.length_take, List.length_drop, Nat.min_assoc]

/-- As many bytes of the payload are kept as are declared, as the limit allows, and as there are. -/
theorem part_eq_take (sample : Bytes) (limit : Nat) :
    part sample limit = (sample.drop headerSize).take (part sample limit).length := by
  rw [length_part, part, List.take_eq_take_iff, List.length_drop]
  omega

/-- The least of what is declared, of the most that is captured, of the limit, and of what there is. -/
theorem length_part_least (sample : Bytes) (limit : Nat) : (part sample limit).length =
    min sample.recordWord.toNat (min 65535 (min (max 1 (min limit 65535)) (sample.length - 4))) := by
  have hclamp := clampCapture_le limit
  rw [length_part]
  simp only [clampCapture, captureLimit, headerSize] at hclamp ⊢
  omega

theorem charge_lt (sample : Bytes) (limit : Nat) : charge sample limit < Queue.reservationLimit := by
  have hclamp := clampCapture_le limit
  have hlimit : headerSize + captureLimit < Queue.reservationLimit := by decide
  rw [charge, length_part]
  omega

theorem decode_of_le (hn : headerSize ≤ sample.length) : ∃ payload,
    decode sample = some (sample.recordWord, payload) ∧
      ∀ limit, payload.take (clampCapture limit) = part sample limit := by
  refine ⟨_, if_neg (Nat.not_lt_of_le hn), fun limit => ?_⟩
  have hclamp := clampCapture_le limit
  rw [List.take_take, part]
  congr 1
  omega

end Record

/-! ### One sample -/

@[simp] theorem HookState.setQueue_self (s : HookState) : s.setQueue s.queue = s := rfl

namespace HookSettings
variable (h : HookSettings) (sample : Bytes)

/-- The four ways in which a sample ends, each with the answer and the state that it leaves. -/
inductive Forwarded (s : HookState) : Except CaptureError Unit × HookState → Prop
  | malformed (hn : sample.length < Record.headerSize) :
      Forwarded s (.ok (), s.report h.sink (.malformedSample sample.length))
  | queued (hn : Record.headerSize ≤ sample.length) (hopen : s.queue.closed = false)
      (hroom : Record.charge sample h.maxCapture ≤ s.queue.available) :
      Forwarded s (.ok (), (s.setQueue { s.queue with
        available := s.queue.available - Record.charge sample h.maxCapture
        events := s.queue.events ++ [⟨sample.recordWord, Record.part sample h.maxCapture,
          Record.charge sample h.maxCapture⟩] }).report h.sink
          (.captured sample.recordWord (Record.part sample h.maxCapture).length))
  | full (hn : Record.headerSize ≤ sample.length)
      (hshort : s.queue.capacity < Record.charge sample h.maxCapture ∨
        s.queue.closed = false ∧ s.queue.available < Record.charge sample h.maxCapture) :
      Forwarded s (.ok (), s.report h.sink
        (.captureFailed (.bufferFull (Record.charge sample h.maxCapture) s.queue.available)))
  | refused (hn : Record.headerSize ≤ sample.length) (hclosed : s.queue.closed = true)
      (hfits : Record.charge sample h.maxCapture ≤ s.queue.capacity) : Forwarded s (.error .closed, s)

theorem forward_forwarded (s : HookState) : h.Forwarded sample s (h.forward sample s) := by
  rcases Nat.lt_or_ge sample.length Record.headerSize with hn | hn
  · have hdecode : Record.decode sample = none := if_pos hn
    simpa [forward, hdecode] using Forwarded.malformed (h := h) (s := s) hn
  · obtain ⟨payload, hdecode, hpart⟩ := Record.decode_of_le hn
    have hsize := Record.charge_lt sample h.maxCapture
    have herror : ∀ {e}, s.queue.reserve (Record.charge sample h.maxCapture) = .error e →
        s.queue.enqueue sample.recordWord (Record.part sample h.maxCapture) = (.error e, s.queue) :=
      fun he => Queue.enqueue_of_error sample.recordWord he
    rcases Nat.lt_or_ge s.queue.capacity (Record.charge sample h.maxCapture) with hlarge | hfits
    · have hreserve := Queue.reserve_of_lt (q := s.queue) hsize
      rw [if_pos hlarge] at hreserve
      simpa [forward, hdecode, hpart, herror hreserve] using Forwarded.full (h := h) (s := s) hn (Or.inl hlarge)
    cases hclosed : s.queue.closed with
    | true =>
      have hreserve := (Queue.reserve_eq_closed hsize).mpr ⟨hclosed, hfits⟩
      simpa [forward, hdecode, hpart, herror hreserve] using Forwarded.refused (h := h) (s := s) hn hclosed hfits
    | false =>
      rcases Nat.lt_or_ge s.queue.available (Record.charge sample h.maxCapture) with hshort | hroom
      · have hreserve := Queue.reserve_of_short hshort (Or.inr hclosed)
        simpa [forward, hdecode, hpart, herror hreserve] using
          Forwarded.full (h := h) (s := s) hn (Or.inr ⟨hclosed, hshort⟩)
      · have hreserve := Queue.reserve_of_lt (q := s.queue) hsize
        rw [if_neg (Nat.not_lt_of_le hfits), if_neg (by simp [hclosed]), if_neg (Nat.not_lt_of_le hroom)] at hreserve
        rcases s.queue.enqueue_cases sample.recordWord (Record.part sample h.maxCapture) with
          ⟨e, he, -⟩ | ⟨-, -, henqueue⟩
        · cases hreserve.symm.trans he
        · rw [← Record.charge] at henqueue
          simpa [forward, hdecode, hpart, henqueue] using Forwarded.queued (h := h) (s := s) hn hclosed hroom

end HookSettings

/-! ### No more than the length -/

/-- The event has no more bytes than its frame is long. -/
def Event.Bounded (e : Event) : Prop := e.payload.length ≤ e.length.toNat

namespace Receiver
variable (r : Receiver) (q : Queue)

/-- All that is queued or held. -/
def events (r : Receiver) (q : Queue) : List Event := q.events ++ r.held.map (·.2)

theorem dropHeld_subset (id : String) : (r.dropHeld q id).1.events (r.dropHeld q id).2 ⊆ r.events q := by
  intro e he
  obtain ⟨-, hevents⟩ := r.dropHeld_events q id
  rw [events, hevents, dropHeld_held] at he
  rcases List.mem_append.mp he with he | he
  · exact List.mem_append_left _ he
  · exact List.mem_append_right _ ((List.filter_sublist.map _).subset he)

/-- The consumer makes no events. -/
theorem step_subset (sourced : Bool) (s : ReceiverStep) :
    (r.step q sourced s).2.1.events (r.step q sourced s).2.2 ⊆ r.events q := by
  have htake : ∀ {e q'}, q.take? = some (e, q') → r.events q' ⊆ r.events q := by
    intro e q' h
    obtain ⟨rest, hevents, rfl⟩ := Queue.take?_some h
    simp [events, hevents, Queue.release, Queue.refund]
  unfold step
  split
  case h_1 id =>
    unfold letGo
    split
    · exact List.Subset.refl _
    · exact r.dropHeld_subset q id
  case h_2 => exact List.Subset.refl _
  case h_3 =>
    split
    · exact List.Subset.refl _
    · exact htake (by assumption)
  case h_4 =>
    unfold poll
    split
    · exact htake (by assumption)
    · exact List.Subset.refl _
  case h_5 id _ =>
    unfold hold
    split
    · exact List.Subset.refl _
    · rename_i e q' h
      obtain ⟨rest, hevents, rfl⟩ := Queue.receive?_some h
      have hrest : r.events { q with events := rest } ⊆ r.events q := by simp [events, hevents]
      have hdropped := r.dropHeld_subset { q with events := rest } id
      intro e' he'
      rcases List.mem_append.mp he' with he' | he'
      · exact hrest (hdropped (List.mem_append_left _ he'))
      · rcases List.mem_cons.mp he' with rfl | he'
        · exact List.mem_append_left _ (hevents ▸ List.mem_cons_self)
        · exact hrest (hdropped (List.mem_append_right _ he'))
  case h_6 => simp [events, Queue.drain]
  case h_7 => exact List.Subset.refl _
  case h_8 => simp [events, Queue.abandon]

end Receiver

namespace HookSettings
variable (h : HookSettings) (s : HookState)

theorem onFrame_bounded (frame : Frame) :
    ∀ e ∈ (h.onFrame frame s).2.queue.events, e ∈ s.queue.events ∨ e.Bounded := by
  have hattempt := h.onFrame_attempted frame s
  generalize (h.onFrame frame s).1 = outcome, (h.onFrame frame s).2.queue = q at hattempt ⊢
  cases hattempt with
  | skipped | refused | short => exact fun e he => Or.inl he
  | captured hc hr hn =>
    intro e he
    rcases List.mem_append.mp he with he | he
    · exact Or.inl he
    · obtain rfl := List.mem_singleton.mp he
      exact Or.inr (Nat.le_trans (List.length_take_le _ _) (Nat.min_le_left _ _))

theorem forward_bounded (sample : Bytes) :
    ∀ e ∈ (h.forward sample s).2.queue.events, e ∈ s.queue.events ∨ e.Bounded := by
  have hforwarded := h.forward_forwarded sample s
  generalize h.forward sample s = result at hforwarded ⊢
  intro e he
  cases hforwarded with
  | malformed | full =>
    rw [HookState.report_queue] at he
    exact Or.inl he
  | refused => exact Or.inl he
  | queued =>
    rw [HookState.report_queue, HookState.setQueue_queue] at he
    rcases List.mem_append.mp he with he | he
    · exact Or.inl he
    · obtain rfl := List.mem_singleton.mp he
      exact Or.inr (Nat.le_trans (List.length_take_le _ _) (Nat.min_le_left _ _))

end HookSettings

namespace Session
variable {h : HookSettings} {x : Session}

/-- All events that are queued, or held by the consumer. -/
def events (x : Session) : List Event := x.receiver.events x.hooks.queue

theorem events_bounded {hooks : HookState}
    (hqueue : ∀ e ∈ hooks.queue.events, e ∈ x.hooks.queue.events ∨ e.Bounded) :
    ∀ e ∈ ({ x with hooks } : Session).events, e ∈ x.events ∨ e.Bounded := by
  intro e he
  rcases List.mem_append.mp he with he | he
  · exact (hqueue e he).imp_left (List.mem_append_left _)
  · exact Or.inl (List.mem_append_right _ he)

theorem step_bounded (s : SessionStep) : ∀ e ∈ (x.step h s).2.events, e ∈ x.events ∨ e.Bounded := by
  cases s with
  | onFrame frame => exact events_bounded (h.onFrame_bounded x.hooks frame)
  | handle frame => exact events_bounded (h.onFrame_bounded x.hooks frame)
  | enforce frame => exact events_bounded fun e he => Or.inl (h.enforce_queue frame x.hooks ▸ he)
  | forward sample =>
    rw [x.step_forward h sample]
    exact events_bounded (h.forward_bounded x.hooks sample)
  | consume r => exact fun e he => Or.inl (x.receiver.step_subset x.hooks.queue true r he)

/-- Whatever is done in a session, no event comes into it that has more bytes than its frame is long. -/
theorem perform_bounded (steps : List SessionStep) : ∀ e ∈ (x.perform h steps).events, e ∈ x.events ∨ e.Bounded := by
  induction steps generalizing x with
  | nil => exact fun e he => Or.inl he
  | cons s rest ih =>
    intro e he
    rcases ih e he with he | hbounded
    · exact step_bounded s e he
    · exact Or.inr hbounded

end Session

namespace HookSettings
variable (h : HookSettings)

/-- Forwarding survives any sample, whatever the limit on captures is and in whatever state the producers and the
    consumer have left an open queue. Let `n` be the bytes of the sample, `length` what the first four of them write, and
    `k` the least of `length`, of 65535, of the limit and of `n - 4`. The answer is always that all is well, and there is
    one report. With fewer than four bytes it is that the sample is malformed, and nothing else changes. Otherwise, if
    `4 + k` bytes are available, one event is appended, with `length` and the `k` bytes behind the first four, which
    leaves `4 + k` bytes less; and if they are not, it is reported that the queue is full, and nothing else changes. So,
    whatever is forwarded, captured and received one after the other, no event gets into a session whose payload is
    longer than the length that it tells. -/
theorem forwarding_survives {s : HookState} {capacity : Nat} {producer : String} {steps : List ExchangeStep}
    (hs : s.queue = ((Exchange.create capacity producer).perform steps).queue) (hopen : ¬Exchange.Ends steps)
    (sample : Bytes) :
    let q := s.queue
    let length := sample.recordWord
    let k := min length.toNat (min 65535 (min (max 1 (min h.maxCapture 65535)) (sample.length - 4)))
    let event : Event := ⟨length, (sample.drop 4).take k, 4 + k⟩
    (sample.length < 4 →
        h.forward sample s = (.ok (), s.report h.sink (.malformedSample sample.length))) ∧
      (4 ≤ sample.length → 4 + k ≤ q.available →
        h.forward sample s = (.ok (), (s.setQueue { q with
          available := q.available - (4 + k), events := q.events ++ [event] }).report h.sink (.captured length k)) ∧
        event.payload.length = k) ∧
      (4 ≤ sample.length → q.available < 4 + k →
        h.forward sample s = (.ok (), s.report h.sink (.captureFailed (.bufferFull (4 + k) q.available)))) ∧
      ∀ (x : Session) (calls : List SessionStep), ∀ e ∈ (x.perform h calls).events,
        e ∈ x.events ∨ e.payload.length ≤ e.length.toNat := by
  intro q length k event
  have hclosed : q.closed = false := by
    rw [← Bool.not_eq_true, show q.closed = _ from congrArg Queue.closed hs, Exchange.closed_perform]
    exact hopen
  have hcapacity : q.available ≤ q.capacity := by
    rw [show q = _ from hs]
    exact Exchange.available_le_capacity capacity producer steps
  have hlength : (Record.part sample h.maxCapture).length = k := Record.length_part_least sample h.maxCapture
  have hpart : Record.part sample h.maxCapture = (sample.drop 4).take k := by
    rw [Record.part_eq_take, hlength]
    rfl
  have hcharge : Record.charge sample h.maxCapture = 4 + k := by
    rw [Record.charge, hlength]
    rfl
  have hpayload : event.payload.length = k := by rw [← hlength, hpart]
  have hbounded : ∀ (x : Session) (calls : List SessionStep), ∀ e ∈ (x.perform h calls).events,
      e ∈ x.events ∨ e.payload.length ≤ e.length.toNat := fun x calls => Session.perform_bounded calls
  have hforwarded := h.forward_forwarded sample s
  generalize h.forward sample s = result at hforwarded ⊢
  cases hforwarded with
  | malformed hn =>
    have hn : sample.length < 4 := hn
    exact ⟨fun _ => rfl, fun hle => absurd hle (Nat.not_le_of_lt hn), fun hle => absurd hle (Nat.not_le_of_lt hn),
      hbounded⟩
  | queued hn _ hroom =>
    rw [hcharge] at hroom
    refine ⟨fun hlt => absurd hn (Nat.not_le_of_lt hlt), fun _ _ => ⟨?_, hpayload⟩,
      fun _ hshort => absurd hroom (Nat.not_le_of_lt hshort), hbounded⟩
    rw [hcharge, hlength, hpart]
  | full hn hshort =>
    rw [hcharge] at hshort
    refine ⟨fun hlt => absurd hn (Nat.not_le_of_lt hlt), fun _ hroom => ?_, fun _ _ => by rw [hcharge], hbounded⟩
    rcases hshort with hlarge | ⟨-, hshort⟩
    · exact absurd (Nat.le_trans hroom hcapacity) (Nat.not_le_of_lt hlarge)
    · exact absurd hroom (Nat.not_le_of_lt hshort)
  | refused _ hshut =>
    rw [show s.queue.closed = false from hclosed] at hshut
    cases hshut

/-- Ten bytes are left beside a slot of six: a record of which six bytes are kept takes all of them, and with one byte
    more there is no room. Three bytes are no record. -/
theorem forwarding_survives_last_bytes :
    let x := (Exchange.create 16 "main").perform [.producer (.reserve "slot" 6 "main")]
    let s := (Session.create 16).hooks.setQueue x.queue
    let h (limit : Nat) : HookSettings := ⟨[8000], limit, .recording⟩
    let sample : Bytes := [9, 0, 0, 0, 1, 2, 3, 4, 5, 6, 7]
    s.queue.available = 10 ∧
      (h 6).forward sample s =
        (.ok (), (s.setQueue ⟨16, 0, false, [⟨9, [1, 2, 3, 4, 5, 6], 10⟩]⟩).report .recording (.captured 9 6)) ∧
      (h 7).forward sample s = (.ok (), s.report .recording (.captureFailed (.bufferFull 11 10))) ∧
      (h 7).forward [9, 0, 0] s = (.ok (), s.report .recording (.malformedSample 3)) := by
  intro x s h sample
  have hopen : ¬Exchange.Ends [.producer (.reserve "slot" 6 "main")] := by decide
  have hs : s.queue = x.queue := rfl
  obtain ⟨-, hqueued, -, -⟩ := forwarding_survives (h 6) hs hopen sample
  obtain ⟨-, -, hfull, -⟩ := forwarding_survives (h 7) hs hopen sample
  obtain ⟨hmalformed, -, -, -⟩ := forwarding_survives (h 7) hs hopen [9, 0, 0]
  exact ⟨by decide, (hqueued (by decide) (by decide)).1, hfull (by decide) (by decide), hmalformed (by decide)⟩

end HookSettings
end FrameSentry
