import FrameSentry.Hook.Session
import FrameSentry.Proofs.Hook.Capture

/-! What the hooks tell are reports. Whatever a hook is called with, and whatever the consumer does, the telemetry
    afterwards is that before with some reports told one after the other. So what no report adds to, no call changes;
    and the metrics of the kernel's counters are such a part of the telemetry. -/

namespace FrameSentry

/-- Some reports were told, and nothing else. -/
def HookState.Reported (s s' : HookState) : Prop :=
  ∃ reports : List Diagnostic, s'.telemetry = reports.foldl Telemetry.tell s.telemetry

namespace HookState
variable {s s' s'' : HookState}

namespace Reported

theorem refl (s : HookState) : s.Reported s := ⟨[], rfl⟩

theorem trans (h₁ : s.Reported s') (h₂ : s'.Reported s'') : s.Reported s'' := by
  obtain ⟨earlier, h₁⟩ := h₁
  obtain ⟨later, h₂⟩ := h₂
  refine ⟨earlier ++ later, ?_⟩
  rw [h₂, h₁, List.foldl_append]

/-- A report is told, or it goes elsewhere. -/
theorem report (s : HookState) (sink : Sink) (d : Diagnostic) : s.Reported (s.report sink d) := by
  cases sink with
  | recording => exact .refl s
  | telling => exact ⟨[d], rfl⟩
  | silent => exact .refl s

/-- What is counted and what becomes of the queue is not told. -/
theorem of_telemetry (h : s'.telemetry = s.telemetry) : s.Reported s' := ⟨[], h⟩

/-- A part of the telemetry to which no report adds stays as it is. -/
theorem keeps {α : Type} {f : Telemetry → α} (hf : ∀ t d, f (t.tell d) = f t) (h : s.Reported s') :
    f s'.telemetry = f s.telemetry := by
  have hreports : ∀ (reports : List Diagnostic) (t : Telemetry), f (reports.foldl Telemetry.tell t) = f t := by
    intro reports
    induction reports with
    | nil => exact fun _ => rfl
    | cons d rest ih => exact fun t => (ih (t.tell d)).trans (hf t d)
  obtain ⟨reports, htold⟩ := h
  rw [htold, hreports]

end Reported
end HookState

/-! ### Calls -/

namespace HookSettings
variable (h : HookSettings) (frame : Frame) (s : HookState)

theorem observe_reported : s.Reported (h.observe frame s).2 := by
  unfold observe
  cases frame.classification with
  | classified f =>
    simp only
    split
    · exact .report (s.count .matched) h.sink _
    · exact .report (s.count .noMatch) h.sink _
  | truncated => exact .report (s.count .truncated) h.sink _
  | unsupportedLinkType => exact .report (s.count .unsupportedLinkType) h.sink _
  | unsupportedTransport => exact .report (s.count .unsupportedTransport) h.sink _

theorem enforce_reported : s.Reported (h.enforce frame s).2 :=
  (h.observe_reported frame s).trans (.report _ h.sink _)

/-- However a capture ends, it is reported once. -/
theorem capture_reported : s.Reported (h.capture frame s).2 := by
  have hreport : ∀ (s' : HookState) (d : Diagnostic), s'.telemetry = s.telemetry → s.Reported (s'.report h.sink d) :=
    fun s' d h' => (HookState.Reported.of_telemetry h').trans (.report s' h.sink d)
  unfold capture drop
  simp only
  split
  · exact hreport _ _ rfl
  split
  · exact hreport _ _ rfl
  split
  · exact hreport _ _ rfl
  split
  · exact hreport _ _ rfl
  · exact hreport _ _ rfl

theorem onFrame_reported : s.Reported (h.onFrame frame s).2 := by
  rw [h.onFrame_eq]
  split
  · exact (h.observe_reported frame s).trans (h.capture_reported frame _)
  · exact h.observe_reported frame s

theorem forward_reported (sample : Bytes) : s.Reported (h.forward sample s).2 := by
  unfold forward
  split
  · exact .report s h.sink _
  simp only
  split
  · exact .report (s.setQueue _) h.sink _
  · exact .of_telemetry rfl
  · exact .report (s.setQueue _) h.sink _

end HookSettings

theorem Session.step_reported (h : HookSettings) (x : Session) (s : SessionStep) :
    x.hooks.Reported (x.step h s).2.hooks := by
  cases s with
  | onFrame frame => exact h.onFrame_reported frame x.hooks
  | handle frame => exact h.onFrame_reported frame x.hooks
  | enforce frame => exact h.enforce_reported frame x.hooks
  | forward sample =>
    rw [x.step_forward h sample]
    exact h.forward_reported x.hooks sample
  | consume r => exact .of_telemetry rfl

/-! ### The counters of the kernel -/

namespace Telemetry

/-- What was published of the kernel's counters. -/
def ofKernel (t : Telemetry) : List MetricUpdate := t.metrics.filter fun u => u.name = Metrics.kernelFramesTotal

theorem ofKernel_count (t : Telemetry) {name : String} (hname : name ≠ Metrics.kernelFramesTotal)
    (labels : List (String × String)) : (t.count name labels).ofKernel = t.ofKernel := by
  simp [ofKernel, count, List.filter_append, hname]

theorem ofKernel_tell (t : Telemetry) (d : Diagnostic) : (t.tell d).ofKernel = t.ofKernel := by
  cases d <;> exact ofKernel_count _ (by decide) _

end Telemetry

/-- No hook publishes anything of the kernel's counters. -/
theorem HookState.Reported.ofKernel {s s' : HookState} (h : s.Reported s') :
    s'.telemetry.ofKernel = s.telemetry.ofKernel :=
  h.keeps Telemetry.ofKernel_tell

end FrameSentry
