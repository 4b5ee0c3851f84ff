import FrameSentry.Proofs.Frame.Cut
import FrameSentry.Proofs.Hook.Capture

/-! What the consumer learns of a frame that was captured. The hooks and the kernel take the frame for something and
    queue a part of it; the consumer classifies that part once more. It learns what they took the frame for, or that
    the part is too short to tell, and what it reckons of the frame's application data does not depend on the part. -/

namespace FrameSentry

theorem Queue.enqueue_appended {q : Queue} {length : UInt32} {payload : Bytes} {e : Event}
    (h : (q.enqueue length payload).2.events = q.events ++ [e]) : e.length = length ∧ e.payload = payload := by
  rcases q.enqueue_cases length payload with ⟨cause, -, heq⟩ | ⟨-, -, heq⟩
  · rw [heq] at h
    cases List.self_eq_append_right.mp h
  · rw [heq] at h
    have hevent := List.append_cancel_left h
    cases hevent
    exact ⟨rfl, rfl⟩

/-! ### How a frame comes into the queue -/

/-- The frame is queued as an event, under a list of ports and a limit on what is captured: the observing hook puts it
    there, or an observer in the kernel makes a record of it and the record is forwarded. -/
inductive Frame.Captured (frame : Frame) : List UInt16 → Nat → Event → Prop
  | observed (h : HookSettings) (s : HookState) (e : Event)
      (hqueued : (h.onFrame frame s).2.queue.events = s.queue.events ++ [e]) :
      frame.Captured h.ports h.maxCapture e
  | forwarded (m : KernelMaps) (cpu : Nat) (record : Bytes) (h : HookSettings) (s : HookState) (e : Event)
      (hput : (m.observe frame cpu).ring.records = m.ring.records ++ [record])
      (hqueued : (h.forward record s).2.queue.events = s.queue.events ++ [e]) :
      frame.Captured m.watched h.maxCapture e

namespace Frame
variable {frame : Frame}

theorem captured_of_onFrame (h : HookSettings) (s : HookState) {e : Event}
    (hqueued : (h.onFrame frame s).2.queue.events = s.queue.events ++ [e]) :
    (frame.classification.matched? h.ports).isSome = true ∧ e.length = frame.length ∧
      e.payload = frame.part h.maxCapture := by
  rw [← h.observe_queue frame s, h.onFrame_eq] at hqueued
  cases hmatched : (frame.classification.matched? h.ports).isSome with
  | false =>
    rw [hmatched] at hqueued
    cases List.self_eq_append_right.mp hqueued
  | true =>
    rw [hmatched, if_pos rfl] at hqueued
    refine ⟨rfl, ?_⟩
    rcases Nat.lt_or_ge frame.data.length (h.copyLength frame.length) with hshort | hn
    · rw [h.capture_short hshort] at hqueued
      cases List.self_eq_append_right.mp hqueued
    · have hqueue : (h.capture frame (h.observe frame s).2).2.queue = _ := h.capture_queue hn _
      rw [hqueue] at hqueued
      exact Queue.enqueue_appended hqueued

theorem captured_of_forward (m : KernelMaps) (cpu : Nat) {record : Bytes} (h : HookSettings) (s : HookState) {e : Event}
    (hput : (m.observe frame cpu).ring.records = m.ring.records ++ [record])
    (hqueued : (h.forward record s).2.queue.events = s.queue.events ++ [e]) :
    (frame.classification.matched? m.watched).isSome = true ∧ e.length = frame.length ∧
      e.payload = frame.part h.maxCapture := by
  obtain ⟨ring, counters, log, hobserve, hring, -⟩ := m.observe_eq frame cpu
  rw [hobserve] at hput
  rcases hring with rfl | ⟨hmatched, hw, rfl⟩
  · cases List.self_eq_append_right.mp hput
  · obtain rfl : frame.recorded = record := by simpa [Ring.push] using hput
    rw [h.forward_queue hw] at hqueued
    exact ⟨hmatched, Queue.enqueue_appended hqueued⟩

/-- Whichever way it comes, a queued frame was matched, and its event tells its length and a part of it. -/
theorem Captured.matched {ports : List UInt16} {limit : Nat} {e : Event} (he : frame.Captured ports limit e) :
    ∃ f, frame.classification.matched? ports = some f ∧ e.length = frame.length ∧ e.payload = frame.part limit := by
  have hcut : (frame.classification.matched? ports).isSome = true ∧ e.length = frame.length ∧
      e.payload = frame.part limit := by
    cases he with
    | observed h s _ hqueued => exact captured_of_onFrame h s hqueued
    | forwarded m cpu record h s _ hput hqueued => exact captured_of_forward m cpu h s hput hqueued
  obtain ⟨hmatched, hlength, hpayload⟩ := hcut
  obtain ⟨f, hf⟩ := Option.isSome_iff_exists.mp hmatched
  exact ⟨f, hf, hlength, hpayload⟩

end Frame

/-! ### What the consumer learns -/

/-- Of a part of a classified frame the consumer learns all of its classification or nothing. -/
theorem Event.summary_cut {frame : Frame} {f : ClassifiedFrame} {limit : Nat} {e : Event}
    (hf : frame.classification = .classified f) (hlength : e.length = frame.length)
    (hpayload : e.payload = frame.part limit) :
    (f.transportOffset + f.protocol.fixedHeader ≤ e.payload.length → e.summary.classification = .classified f ∧
        e.summary.payloadLength =
          some (frame.length.toNat - (f.transportOffset + f.transportHeaderIn frame.data))) ∧
      (¬f.transportOffset + f.protocol.fixedHeader ≤ e.payload.length →
        e.summary.classification = .truncated ∧ e.summary.payloadLength = none) := by
  have hgrammar : frame.data.grammar (min frame.length.toNat frame.data.length) = .classified f :=
    (frame.data.classifyWithin_eq frame.length.toNat).symm.trans hf
  have hinitial : e.payload <+: frame.data := hpayload ▸ frame.part_initial limit
  have hclassify := Bytes.classify_cut hgrammar hinitial (hpayload ▸ frame.length_part_le limit)
  constructor
  · intro hcover
    rw [if_pos hcover] at hclassify
    have hoffset := (Bytes.grammar_classified hgrammar).2.1
    have hheader : f.transportHeaderLength e.payload = f.transportHeaderIn frame.data :=
      ClassifiedFrame.transportHeaderLength_initial hinitial (by omega) hcover
    refine ⟨hclassify, ?_⟩
    simp only [summary, hclassify, Classification.frame?, Option.map_some, hlength, hheader]
  · intro hshort
    rw [if_neg hshort] at hclassify
    refine ⟨hclassify, ?_⟩
    simp only [summary, hclassify, Classification.frame?, Option.map_none]

/-- To cut a frame short does not change what it is taken for. A prefix of some bytes is truncated or classified as they
    are. So the consumer takes a captured frame for the very frame that was matched, just if the captured part covers
    the fixed transport header, and else for truncated; and what it reckons of the application data is the same for
    all captures of the frame that do, whatever their limits. -/
theorem cut_keeps_classification :
    (∀ d p : Bytes, p <+: d → p.classify = .truncated ∨ p.classify = d.classify) ∧
      (∀ (frame : Frame) (ports : List UInt16) (limit : Nat) (e : Event), frame.Captured ports limit e →
        ∃ f, frame.classification.matched? ports = some f ∧
          (e.summary.classification = .classified f ↔
            f.transportOffset + f.protocol.fixedHeader ≤ e.payload.length) ∧
          (¬f.transportOffset + f.protocol.fixedHeader ≤ e.payload.length →
            e.summary.classification = .truncated ∧ e.summary.payloadLength = none) ∧
          (f.transportOffset + f.protocol.fixedHeader ≤ e.payload.length → e.summary.payloadLength =
            some (frame.length.toNat - (f.transportOffset + f.transportHeaderIn frame.data)))) ∧
      ∀ (frame : Frame) (f : ClassifiedFrame) (ports ports' : List UInt16) (limit limit' : Nat) (e e' : Event),
        frame.classification = .classified f → frame.Captured ports limit e → frame.Captured ports' limit' e' →
        f.transportOffset + f.protocol.fixedHeader ≤ e.payload.length →
        f.transportOffset + f.protocol.fixedHeader ≤ e'.payload.length →
          e.summary.payloadLength = e'.summary.payloadLength := by
  refine ⟨fun d p hp => Bytes.classify_initial hp, ?_, ?_⟩
  · intro frame ports limit e he
    obtain ⟨f, hmatched, hlength, hpayload⟩ := he.matched
    obtain ⟨hcovered, hshort⟩ :=
      Event.summary_cut (Classification.matched?_eq_some hmatched).1 hlength hpayload
    refine ⟨f, hmatched, ⟨fun hclassified => ?_, fun hcover => (hcovered hcover).1⟩, hshort,
      fun hcover => (hcovered hcover).2⟩
    refine Decidable.by_contra fun hnot => ?_
    rw [(hshort hnot).1] at hclassified
    cases hclassified
  · intro frame f ports ports' limit limit' e e' hf he he' hcover hcover'
    obtain ⟨-, -, hlength, hpayload⟩ := he.matched
    obtain ⟨-, -, hlength', hpayload'⟩ := he'.matched
    have hfirst := ((Event.summary_cut hf hlength hpayload).1 hcover).2
    have hsecond := ((Event.summary_cut hf hlength' hpayload').1 hcover').2
    rw [hfirst, hsecond]

/-- A segment from port 8000 of 100 bytes, with a header of 32 bytes and 34 bytes of data. -/
def Frame.segment : Frame :=
  .ofData (List.replicate 12 0 ++ [0x08, 0x00, 0x45] ++ List.replicate 8 0 ++ [6] ++ List.replicate 10 0 ++
    [0x1f, 0x40] ++ List.replicate 10 0 ++ [0x80] ++ List.replicate 53 0)

/-- The hook queues the least part that covers the fixed header, and one byte less; the kernel queues a part that
    covers the options as well. -/
theorem cut_keeps_classification_segment :
    let event (limit : Nat) : Event := ⟨100, Frame.segment.data.take limit, Record.headerSize + limit⟩
    (event 54).summary.payloadLength = some 34 ∧ (event 66).summary.payloadLength = some 34 ∧
      (event 53).summary.classification = .truncated := by
  intro event
  let h (limit : Nat) : HookSettings := ⟨[8000], limit, .silent⟩
  let s : HookState := ⟨.create 1000, .zero, .empty, []⟩
  let m : KernelMaps := { KernelMaps.create 1 100000 with watched := [8000] }
  let f : ClassifiedFrame := ⟨.tcp, ⟨0, 0, 0, 0⟩, ⟨0, 0, 0, 0⟩, 8000, 0, 34⟩
  have hf : Frame.segment.classification = .classified f := by decide
  have hmatched : Frame.segment.classification.matched? [8000] = some f := by
    rw [hf]
    decide
  have hleast : Frame.segment.Captured [8000] 54 (event 54) := .observed (h 54) s _ (by decide)
  have hless : Frame.segment.Captured [8000] 53 (event 53) := .observed (h 53) s _ (by decide)
  have hmore : Frame.segment.Captured [8000] 66 (event 66) := by
    have hw : Frame.segment.Whole := by decide
    obtain ⟨ring, counters, log, hobserve, -, hring⟩ := m.observe_eq Frame.segment 0
    have hput : (m.observe Frame.segment 0).ring = m.ring.push Frame.segment.recorded := by
      rw [hobserve]
      exact hring (congrArg Option.isSome hmatched) (by decide) hw
    have hqueue := (h 66).forward_queue hw s
    refine .forwarded m 0 Frame.segment.recorded (h 66) s _ (congrArg Ring.records hput) ?_
    rw [hqueue]
    decide
  obtain ⟨-, hlearned, hsame⟩ := cut_keeps_classification
  obtain ⟨f₁, hf₁, -, -, hpayload⟩ := hlearned Frame.segment [8000] 54 _ hleast
  obtain ⟨f₂, hf₂, -, hshort, -⟩ := hlearned Frame.segment [8000] 53 _ hless
  cases hmatched.symm.trans hf₁
  cases hmatched.symm.trans hf₂
  have hfirst : (event 54).summary.payloadLength = some 34 := (hpayload (by decide)).trans (by decide)
  have hsecond := hsame Frame.segment f [8000] [8000] 54 66 _ _ hf hleast hmore (by decide) (by decide)
  exact ⟨hfirst, hsecond.symm.trans hfirst, (hshort (by decide)).1⟩

end FrameSentry
