import FrameSentry.Proofs.Hook.Judgement

/-! How a matching frame is captured. The observing hook puts it into the queue at once, cut to the limit of the
    hooks; an observer in the kernel copies as much of it as a record can hold, and to forward the record is to
    put the same bytes into the queue. Into a closed queue nothing is put either way. -/

namespace FrameSentry

/-- The data of a frame reaches to its declared length, or as far as frames are captured. -/
def Frame.Whole (f : Frame) : Prop := min f.length.toNat Record.captureLimit ≤ f.data.length

instance (f : Frame) : Decidable f.Whole := inferInstanceAs (Decidable (_ ≤ _))

namespace Frame

/-- The part of the frame that a limit on captures leaves. -/
def part (frame : Frame) (limit : Nat) : Bytes :=
  frame.data.take (min frame.length.toNat (Record.clampCapture limit))

theorem part_initial (frame : Frame) (limit : Nat) : frame.part limit <+: frame.data := List.take_prefix _ _

theorem length_part_le (frame : Frame) (limit : Nat) :
    (frame.part limit).length ≤ min frame.length.toNat frame.data.length := by
  rw [part, List.length_take]
  omega

end Frame

/-- What is counted of an attempt to capture a whole frame. -/
def Outcome.ofCapture : Except CaptureError Unit → Outcome
  | .ok _ => .captured
  | .error _ => .reserveFailed

/-! ### In user memory -/

namespace HookSettings
variable (h : HookSettings) {frame : Frame}

/-- What becomes of a queue when a whole frame is observed. -/
def deposit (h : HookSettings) (frame : Frame) (q : Queue) : Queue :=
  if (frame.classification.matched? h.ports).isSome then
    (q.enqueue frame.length (frame.data.take (h.copyLength frame.length))).2
  else q

theorem deposit_of_closed (frame : Frame) {q : Queue} (hq : q.closed = true) : h.deposit frame q = q := by
  unfold deposit
  split
  · exact Queue.enqueue_of_closed hq _ _
  · rfl

theorem deposit_closed (frame : Frame) (q : Queue) : (h.deposit frame q).closed = q.closed := by
  unfold deposit
  split
  · exact Queue.enqueue_closed q _ _
  · rfl

theorem copyLength_le (hw : frame.Whole) : h.copyLength frame.length ≤ frame.data.length := by
  have := Record.clampCapture_le h.maxCapture
  unfold Frame.Whole at hw
  unfold copyLength
  omega

/-- To reserve, fill and commit one after the other is to do it at once, and only the reservation can fail. -/
theorem capture_cases (hn : h.copyLength frame.length ≤ frame.data.length) (s : HookState) :
    let payload := frame.data.take (h.copyLength frame.length)
    (∃ e, s.queue.enqueue frame.length payload = (.error e, s.queue) ∧ (h.capture frame s).1 = .dropped e ∧
        (h.capture frame s).2.queue = s.queue ∧
        (h.capture frame s).2.counters = s.counters.bump .reserveFailed) ∨
      ∃ q, s.queue.enqueue frame.length payload = (.ok (), q) ∧
        (h.capture frame s).1 = .captured frame.length (h.copyLength frame.length) ∧
        (h.capture frame s).2.queue = q ∧ (h.capture frame s).2.counters = s.counters.bump .captured := by
  intro payload
  have hlength : payload.length = h.copyLength frame.length := List.length_take_of_le hn
  cases hreserve : s.queue.reserve (Record.headerSize + h.copyLength frame.length) with
  | error e =>
    have henqueue : s.queue.enqueue frame.length payload = (.error e, s.queue) := by
      simp only [Queue.enqueue, hlength, hreserve]
    refine Or.inl ⟨e, henqueue, ?_⟩
    simp [capture, hreserve, drop]
  | ok r =>
    obtain ⟨slot, q⟩ := r
    obtain ⟨hopen, -, rfl, rfl⟩ := Queue.reserve_ok hreserve
    have hfill : Slot.fill ⟨Record.headerSize + h.copyLength frame.length, 0, []⟩ frame.length payload =
        .ok ⟨Record.headerSize + h.copyLength frame.length, frame.length, payload⟩ :=
      if_neg (by rw [hlength]; simp [Slot.room])
    refine Or.inr ⟨(s.queue.enqueue frame.length payload).2, ?_, ?_⟩
    · simp [Queue.enqueue, hlength, hreserve, hfill, Queue.commit, hopen]
    · simp [capture, Queue.enqueue, hlength, hreserve, Nat.not_lt_of_le hn, show frame.data.take _ = payload from rfl,
        hfill, Queue.commit, hopen]

/-- A frame that is shorter than the part to copy is not queued. -/
theorem capture_short (hn : frame.data.length < h.copyLength frame.length) (s : HookState) :
    (h.capture frame s).2.queue.events = s.queue.events := by
  cases hreserve : s.queue.reserve (Record.headerSize + h.copyLength frame.length) with
  | error e => simp [capture, hreserve, drop]
  | ok r =>
    obtain ⟨slot, q⟩ := r
    obtain ⟨-, -, -, rfl⟩ := Queue.reserve_ok hreserve
    simp [capture, hreserve, if_pos hn, drop, Queue.discard, Queue.refund]

theorem capture_queue (hn : h.copyLength frame.length ≤ frame.data.length) (s : HookState) :
    (h.capture frame s).2.queue =
      (s.queue.enqueue frame.length (frame.data.take (h.copyLength frame.length))).2 := by
  rcases h.capture_cases hn s with ⟨e, henqueue, -, hqueue, -⟩ | ⟨q, henqueue, -, hqueue, -⟩ <;>
    rw [hqueue, henqueue]

/-- What does not match leaves all but a count and a report as it was. -/
theorem onFrame_eq (frame : Frame) (s : HookState) : h.onFrame frame s =
    if (frame.classification.matched? h.ports).isSome then h.capture frame (h.observe frame s).2
    else (.skipped frame.classification, (h.observe frame s).2) := by
  unfold onFrame
  rw [← h.observe_fst frame s]

theorem onFrame_queue (hw : frame.Whole) (s : HookState) : (h.onFrame frame s).2.queue = h.deposit frame s.queue := by
  rw [onFrame_eq, deposit, ← h.observe_queue frame s]
  split
  · exact h.capture_queue (h.copyLength_le hw) _
  · rfl

/-- A whole frame that matches is counted as such, and then as queued or as one that there was no room for. -/
theorem onFrame_matched (hw : frame.Whole) (hmatched : (frame.classification.matched? h.ports).isSome = true)
    (s : HookState) : (h.onFrame frame s).2.counters = (s.counters.bump .matched).bump
      (.ofCapture (s.queue.enqueue frame.length (frame.part h.maxCapture)).1) := by
  have hcounters : (h.observe frame s).2.counters = s.counters.bump .matched := by
    rw [h.observe_counters, Classification.outcome_of_matched hmatched]
  rw [onFrame_eq, if_pos hmatched, ← hcounters, ← h.observe_queue frame s]
  rcases h.capture_cases (h.copyLength_le hw) (h.observe frame s).2 with
    ⟨e, henqueue, -, -, hcount⟩ | ⟨q, henqueue, -, -, hcount⟩
  · rw [hcount, show frame.part h.maxCapture = frame.data.take (h.copyLength frame.length) from rfl, henqueue]
    rfl
  · rw [hcount, show frame.part h.maxCapture = frame.data.take (h.copyLength frame.length) from rfl, henqueue]
    rfl

end HookSettings

/-- The record that the kernel makes of a frame. -/
def Frame.recorded (f : Frame) : Bytes :=
  Record.encode f.length (f.data.take (min f.length.toNat Record.captureLimit))

namespace HookSettings
variable (h : HookSettings) {frame : Frame}

/-- A record is forwarded by putting its payload into the queue, cut to the limit; the reader goes on unless
    the queue is closed. -/
theorem forward_decoded {sample : Bytes} {length : UInt32} {payload : Bytes}
    (hd : Record.decode sample = some (length, payload)) (s : HookState) :
    let result := s.queue.enqueue length (payload.take (Record.clampCapture h.maxCapture))
    (h.forward sample s).2.queue = result.2 ∧ (result.1 ≠ .error .closed → (h.forward sample s).1 = .ok ()) := by
  intro result
  unfold forward
  rw [hd]
  simp only
  split <;> rename_i he <;> rw [show result = _ from he]
  · exact ⟨by simp, fun _ => rfl⟩
  · exact ⟨by simp, fun hne => absurd rfl hne⟩
  · exact ⟨by simp, fun _ => rfl⟩

/-- To cut a frame to what a record holds and then to the limit is to cut it to the limit. -/
theorem take_recorded (frame : Frame) : (frame.data.take (min frame.length.toNat Record.captureLimit)).take
    (Record.clampCapture h.maxCapture) = frame.data.take (h.copyLength frame.length) := by
  have := Record.clampCapture_le h.maxCapture
  rw [List.take_take, copyLength]
  congr 1
  omega

theorem forward_queue (hw : frame.Whole) (s : HookState) : (h.forward frame.recorded s).2.queue =
    (s.queue.enqueue frame.length (frame.data.take (h.copyLength frame.length))).2 := by
  rw [← h.take_recorded frame]
  exact (h.forward_decoded (Record.decode_encode frame.length (List.length_take_of_le hw)) s).1

/-- The reader goes on as long as the queue is open. -/
theorem forward_fst (hw : frame.Whole) {s : HookState} (hs : s.queue.closed = false) :
    (h.forward frame.recorded s).1 = .ok () :=
  (h.forward_decoded (Record.decode_encode frame.length (List.length_take_of_le hw)) s).2
    (Queue.enqueue_ne_closed hs _ _)

end HookSettings

/-! ### In the kernel -/

namespace KernelMaps

/-- An observer leaves the watched ports alone, and only a whole frame that matches is put into the ring. It is put
    there if its record fits. -/
theorem observe_eq (m : KernelMaps) (packet : Frame) (cpu : Nat) : ∃ ring counters log,
    m.observe packet cpu = { m with ring, counters, log } ∧
      (ring = m.ring ∨ ((packet.classification.matched? m.watched).isSome = true ∧ packet.Whole ∧
        ring = m.ring.push packet.recorded)) ∧
      ((packet.classification.matched? m.watched).isSome = true → m.ring.fits Record.size = true → packet.Whole →
        ring = m.ring.push packet.recorded) := by
  obtain ⟨log, hjudge⟩ := m.judge_eq packet cpu
  unfold observe
  rw [hjudge]
  cases hmatched : (packet.classification.matched? m.watched).isSome with
  | false => exact ⟨m.ring, _, log, rfl, Or.inl rfl, nofun⟩
  | true =>
    simp only [record]
    split
    · rename_i hfull
      refine ⟨m.ring, _, _, rfl, Or.inl rfl, fun _ hfits => ?_⟩
      rw [bump, hfits] at hfull
      cases hfull
    split
    · rename_i hshort
      exact ⟨m.ring, _, _, rfl, Or.inl rfl, fun _ _ hw => absurd hw (Nat.not_le_of_lt hshort)⟩
    · rename_i hwhole
      exact ⟨_, _, _, rfl, Or.inr ⟨trivial, Nat.le_of_not_lt hwhole, rfl⟩, fun _ _ _ => rfl⟩

end KernelMaps

end FrameSentry
