import FrameSentry.Hook.Session
import FrameSentry.Proofs.Frame.Cut
import FrameSentry.Proofs.Hook.Capture

/-! An attempt to capture a frame is all or nothing. The observing hook takes bytes of the budget before it knows
    whether the frame has the bytes to copy, and each way out gives back what it took: either one event is appended and
    the budget is less by what that event has of it, or the queue is as it was. The frame's classification, what a
    reservation comes to, and the bytes that can be read, looked at in this order, tell which. -/

namespace FrameSentry

/-! ### The attempt -/

/-- What a frame is taken for is what the bytes are taken for that it declares and has. -/
theorem Frame.classification_eq (frame : Frame) :
    frame.classification = Bytes.classify (frame.data.take (min frame.length.toNat frame.data.length)) := by
  have hlength : (frame.data.take (min frame.length.toNat frame.data.length)).length =
      min frame.length.toNat frame.data.length := List.length_take_of_le (Nat.min_le_right _ _)
  rw [classification, Bytes.classifyWithin_eq, Bytes.classify_eq_grammar,
    Bytes.grammar_initial (List.take_prefix _ _), hlength]

namespace HookSettings
variable (h : HookSettings) (frame : Frame)

/-- The four ways in which an attempt ends, each with its outcome and what it makes of the queue. -/
inductive Attempted (q : Queue) : CaptureOutcome → Queue → Prop
  | skipped (hc : frame.classification.matched? h.ports = none) : Attempted q (.skipped frame.classification) q
  | refused (hc : frame.classification.matched? h.ports ≠ none) {e : CaptureError}
      (he : q.reserve (Record.headerSize + h.copyLength frame.length) = .error e) : Attempted q (.dropped e) q
  | short (hc : frame.classification.matched? h.ports ≠ none) {slot : Slot} {r : Queue}
      (hr : q.reserve (Record.headerSize + h.copyLength frame.length) = .ok (slot, r))
      (hn : frame.data.length < h.copyLength frame.length) :
      Attempted q (.dropped (.copyFailure (h.copyLength frame.length) frame.data.length)) q
  | captured (hc : frame.classification.matched? h.ports ≠ none) {slot : Slot} {r : Queue}
      (hr : q.reserve (Record.headerSize + h.copyLength frame.length) = .ok (slot, r))
      (hn : h.copyLength frame.length ≤ frame.data.length) :
      Attempted q (.captured frame.length (h.copyLength frame.length))
        { q with
          available := q.available - (Record.headerSize + h.copyLength frame.length)
          events := q.events ++ [⟨frame.length, frame.data.take (h.copyLength frame.length),
            Record.headerSize + h.copyLength frame.length⟩] }

theorem capture_attempted (hc : frame.classification.matched? h.ports ≠ none) (s : HookState) :
    h.Attempted frame s.queue (h.capture frame s).1 (h.capture frame s).2.queue := by
  generalize hcapture : h.capture frame s = result
  unfold capture at hcapture
  simp only at hcapture
  split at hcapture
  · rename_i e he
    subst hcapture
    simpa [drop] using Attempted.refused hc he
  · rename_i slot r hr
    split at hcapture
    · rename_i hn
      subst hcapture
      simpa [drop, Queue.discard_reserved hr] using Attempted.short hc hr hn
    · rename_i hn
      have hn := Nat.le_of_not_lt hn
      have hlength := List.length_take_of_le hn
      have hfill := Queue.fill_reserved (frame.data.take (h.copyLength frame.length))
        (by rw [hlength]; exact hr) frame.length
      have hcommit := Queue.commit_reserved hr frame.length (frame.data.take (h.copyLength frame.length))
      simp only [hfill, hcommit] at hcapture
      subst hcapture
      simpa using Attempted.captured hc hr hn

theorem onFrame_attempted (s : HookState) :
    h.Attempted frame s.queue (h.onFrame frame s).1 (h.onFrame frame s).2.queue := by
  rw [onFrame_eq]
  split
  · rename_i hmatched
    have hc : frame.classification.matched? h.ports ≠ none := Option.isSome_iff_ne_none.mp hmatched
    have hattempt := h.capture_attempted frame hc (h.observe frame s).2
    rwa [h.observe_queue] at hattempt
  · rename_i hmatched
    rw [h.observe_queue]
    exact .skipped (by simpa using hmatched)

/-- One attempt to capture a frame is all or nothing, whatever the ports, the limit on captures and the state of the
    queue are. Let `c` be what the bytes are taken for that the frame declares and has, and `n` how many of them are
    to be captured. The frame is skipped just if `c` does not match. If it matches, it is dropped with the error of
    the reservation of `4 + n` bytes, if that fails; or else as one that cannot be copied, just if it has fewer than `n`
    bytes; or else the first `n` bytes are put into the slot, which never fails, and captured: one event is appended,
    and `4 + n` bytes less are available. Unless it is captured the queue is as it was. And the hook accepts the frame
    whatever becomes of the attempt. -/
theorem attempt_all_or_nothing (s : HookState) :
    let n := min frame.length.toNat (max 1 (min h.maxCapture 65535))
    let c := Bytes.classify (frame.data.take (min frame.length.toNat frame.data.length))
    let q := s.queue
    let outcome := (h.onFrame frame s).1
    let q' := (h.onFrame frame s).2.queue
    (outcome = .skipped c ↔ c.matched? h.ports = none) ∧
      (c.matched? h.ports ≠ none → ∀ e, q.reserve (4 + n) = .error e → outcome = .dropped e) ∧
      (c.matched? h.ports ≠ none → ∀ slot r, q.reserve (4 + n) = .ok (slot, r) →
        (outcome = .dropped (.copyFailure n frame.data.length) ↔ frame.data.length < n) ∧
          (n ≤ frame.data.length →
            outcome = .captured frame.length n ∧
              slot.fill frame.length (frame.data.take n) =
                .ok { slot with length := frame.length, payload := frame.data.take n } ∧
              q' = { q with
                available := q.available - (4 + n)
                events := q.events ++ [⟨frame.length, frame.data.take n, 4 + n⟩] } ∧
              q'.available + (4 + n) = q.available)) ∧
      ((∀ length captured, outcome ≠ .captured length captured) → q' = q) ∧
      (h.handle frame s).1 = .accept ∧ (h.handle frame s).2 = (h.onFrame frame s).2 := by
  intro n c q outcome q'
  have hc : frame.classification = c := frame.classification_eq
  have hattempt : h.Attempted frame q outcome q' := h.onFrame_attempted frame s
  have hhandle : (h.handle frame s).1 = .accept ∧ (h.handle frame s).2 = (h.onFrame frame s).2 := ⟨rfl, rfl⟩
  have hn : h.copyLength frame.length = n := rfl
  have hheader : Record.headerSize = 4 := rfl
  clear_value n c outcome q'
  subst hc
  cases hattempt with
  | skipped hnone => simp [hnone, hhandle]
  | refused hmatched he =>
    rw [hn, hheader] at he
    simp [hmatched, he, hhandle]
  | short hmatched hr hshort =>
    rw [hn, hheader] at hr
    rw [hn] at hshort ⊢
    simp [hmatched, hr, hshort, Nat.not_le_of_lt hshort, hhandle]
  | captured hmatched hr hreach =>
    rw [hn, hheader] at hr ⊢
    rw [hn] at hreach
    have hlength : (frame.data.take n).length = n := List.length_take_of_le hreach
    have hfill := Queue.fill_reserved (frame.data.take n) (by rw [hlength]; exact hr) frame.length
    have hroom := Nat.sub_add_cancel (Queue.reserve_ok hr).2.1
    simp [hmatched, hr, hreach, hfill, hroom, hhandle]

end HookSettings

/-- Of a frame that declares 60 bytes and has 42 the hook has to copy 60; it finds that out after the reservation. -/
example : (HookSettings.onFrame ⟨[8000], 100, .silent⟩ ⟨Frame.datagram.data, 60⟩ (Session.create 100).hooks).1 =
    .dropped (.copyFailure 60 42) := by decide

end FrameSentry
