import FrameSentry.Kernel.Program
import FrameSentry.Proofs.Frame.Grammar

/-! How a frame is judged. The programs of the kernel and the hooks in user memory take a frame for the same
    thing, whatever length it declares; they match it against their ports alike and count it under the same
    outcome. Only the log of the kernel and the reports of the hooks tell them apart. -/

namespace FrameSentry

/-! ### Ports -/

/-- Whether a frame matches depends only on which ports are listed. -/
theorem ClassifiedFrame.matchesPorts_congr (f : ClassifiedFrame) {ports ports' : List UInt16}
    (hp : ∀ p, p ∈ ports ↔ p ∈ ports') : f.matchesPorts ports = f.matchesPorts ports' := by
  have hcontains : ∀ p, ports.contains p = ports'.contains p := fun p => by
    rw [Bool.eq_iff_iff, List.contains_iff_mem, List.contains_iff_mem]
    exact hp p
  unfold matchesPorts
  rw [hcontains, hcontains]

namespace Classification

theorem enforce_congr (c : Classification) {ports ports' : List UInt16} (hp : ∀ p, p ∈ ports ↔ p ∈ ports') :
    c.enforce ports = c.enforce ports' := by
  have hmatched : c.matched? ports = c.matched? ports' := by
    unfold matched?
    congr 1
    funext f
    exact f.matchesPorts_congr hp
  unfold enforce
  rw [hmatched]

theorem matched?_eq_some {c : Classification} {ports : List UInt16} {f : ClassifiedFrame}
    (h : c.matched? ports = some f) : c = .classified f ∧ f.matchesPorts ports = true := by
  obtain ⟨hframe, hports⟩ := Option.filter_eq_some_iff.mp h
  cases c with
  | classified f' =>
    cases hframe
    exact ⟨rfl, hports⟩
  | truncated => cases hframe
  | unsupportedLinkType => cases hframe
  | unsupportedTransport => cases hframe

/-- The counter of a frame that is judged. -/
def outcome (c : Classification) (ports : List UInt16) : Outcome :=
  match c with
  | .truncated => .truncated
  | .unsupportedLinkType => .unsupportedLinkType
  | .unsupportedTransport => .unsupportedTransport
  | .classified f => if f.matchesPorts ports then .matched else .noMatch

theorem outcome_of_matched {c : Classification} {ports : List UInt16} (h : (c.matched? ports).isSome = true) :
    c.outcome ports = .matched := by
  obtain ⟨f, hf⟩ := Option.isSome_iff_exists.mp h
  obtain ⟨rfl, hports⟩ := matched?_eq_some hf
  exact if_pos hports

end Classification

/-- A datagram from port 8000 that carries nothing. -/
def Frame.datagram : Frame :=
  .ofData (List.replicate 12 0 ++ [0x08, 0x00, 0x45] ++ List.replicate 8 0 ++ [17] ++ List.replicate 10 0 ++
    [0x1f, 0x40] ++ List.replicate 6 0)

/-! ### In the kernel -/

namespace KernelMaps

/-- The kernel's cursor ends at the declared length and its loads fail past the data; the hooks' cursor ends
    at the lesser of the two. They come to the same. -/
theorem classify_eq (packet : Frame) : classify packet = packet.classification := by
  have hkernel : classify packet = packet.data.grammar (min packet.length.toNat packet.data.length) :=
    Cursor.classify_packet packet.data packet.length.toNat packet.length.toNat
  rw [hkernel]
  exact (Bytes.classifyWithin_eq packet.data packet.length.toNat).symm

/-- A program of the kernel counts the packet, and changes nothing else but its log. -/
theorem judge_eq (m : KernelMaps) (packet : Frame) (cpu : Nat) : ∃ log, m.judge packet cpu =
    ((packet.classification.matched? m.watched).isSome,
      { m.bump cpu (packet.classification.outcome m.watched) with log }) := by
  unfold judge
  rw [classify_eq]
  cases packet.classification with
  | truncated => exact ⟨m.log, rfl⟩
  | unsupportedLinkType => exact ⟨m.log, rfl⟩
  | unsupportedTransport => exact ⟨m.log, rfl⟩
  | classified f =>
    by_cases hf : f.matchesPorts m.watched = true
    · simp only [hf, Classification.matched?, Classification.frame?, Classification.outcome, Option.filter_some,
        if_true]
      exact ⟨_, rfl⟩
    · simp only [hf, Classification.matched?, Classification.frame?, Classification.outcome, Option.filter_some]
      exact ⟨_, rfl⟩

/-- The filter's value tells its verdict. -/
theorem run_portFilter (m : KernelMaps) (packet : Frame) (cpu : Nat) : ∃ log, m.run .portFilter packet cpu =
    ((packet.classification.enforce m.watched).filterCode,
      { m.bump cpu (packet.classification.outcome m.watched) with log }) := by
  obtain ⟨log, hjudge⟩ := m.judge_eq packet cpu
  refine ⟨log, ?_⟩
  unfold run filter
  rw [hjudge]
  unfold Classification.enforce
  cases (packet.classification.matched? m.watched).isSome <;> rfl

end KernelMaps

/-! ### In user memory -/

namespace HookSettings
variable (h : HookSettings) (frame : Frame) (s : HookState)

theorem observe_fst : (h.observe frame s).1 = frame.classification := by
  unfold observe
  cases frame.classification with
  | classified f =>
    simp only
    split <;> rfl
  | _ => rfl

theorem observe_counters :
    (h.observe frame s).2.counters = s.counters.bump (frame.classification.outcome h.ports) := by
  unfold observe Classification.outcome
  cases frame.classification with
  | classified f =>
    simp only
    split <;> simp
  | _ => simp [Classification.failure?]

theorem observe_queue : (h.observe frame s).2.queue = s.queue := by
  unfold observe
  cases frame.classification with
  | classified f =>
    simp only
    split <;> simp
  | _ => simp [Classification.failure?]

theorem enforce_fst : (h.enforce frame s).1 = frame.classification.enforce h.ports := by
  show (h.observe frame s).1.enforce h.ports = _
  rw [observe_fst]

theorem enforce_counters :
    (h.enforce frame s).2.counters = s.counters.bump (frame.classification.outcome h.ports) := by
  show ((h.observe frame s).2.report h.sink _).counters = _
  rw [HookState.report_counters, observe_counters]

theorem enforce_queue : (h.enforce frame s).2.queue = s.queue := by
  simp [enforce, observe_queue]

end HookSettings
end FrameSentry
