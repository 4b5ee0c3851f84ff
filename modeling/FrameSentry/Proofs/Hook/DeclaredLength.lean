import Mathlib.Data.List.Forall2
import FrameSentry.Hook.Session
import FrameSentry.Proofs.Frame.Cut
import FrameSentry.Proofs.Hook.Capture

/-! What lies behind the declared length of a frame. A buffer may be longer than the frame in it, and hold bytes of
    earlier frames there. The parser looks at no byte past the declared length and a capture copies none. So the hooks
    cannot tell frames apart that are alike up to there: not in what they answer, count or report, nor in what they put
    into the queue, and not in any run of calls. -/

namespace FrameSentry

/-! ### Frames that are alike -/

/-- The data of a frame within its declared length. -/
def Frame.declared (frame : Frame) : Bytes := frame.data.take frame.length.toNat

/-- Two frames declare the same length, the data of each reaches at least to there, and up to there it is the same. -/
structure Frame.Alike (f g : Frame) : Prop where
  length : f.length = g.length
  reaches : f.length.toNat ≤ f.data.length
  reaches' : g.length.toNat ≤ g.data.length
  declared : f.declared = g.declared

namespace Frame

/-- What a frame is taken for is read from the data within its declared length. -/
theorem classification_declared {frame : Frame} (hreaches : frame.length.toNat ≤ frame.data.length) :
    frame.classification = frame.declared.grammar frame.length.toNat := by
  have hinitial := Bytes.grammar_initial (List.take_prefix frame.length.toNat frame.data)
  have hgrammar : frame.classification = frame.data.grammar frame.length.toNat := by
    unfold classification
    rw [Bytes.classifyWithin_eq, Nat.min_eq_left hreaches]
  rw [List.length_take_of_le hreaches] at hinitial
  exact hgrammar.trans hinitial.symm

/-- Fewer bytes than are declared are the first of the declared ones. -/
theorem take_declared (frame : Frame) {n : Nat} (hn : n ≤ frame.length.toNat) :
    frame.data.take n = frame.declared.take n := by
  rw [declared, List.take_take, Nat.min_eq_left hn]

namespace Alike
variable {f g : Frame}

theorem classification (hfg : f.Alike g) : f.classification = g.classification := by
  rw [classification_declared hfg.reaches, classification_declared hfg.reaches', hfg.length, hfg.declared]

theorem take (hfg : f.Alike g) {n : Nat} (hn : n ≤ g.length.toNat) : f.data.take n = g.data.take n := by
  rw [f.take_declared (hfg.length ▸ hn), g.take_declared hn, hfg.declared]

end Alike
end Frame

/-! ### Calls of the hooks -/

namespace HookSettings
variable {f g : Frame}

theorem copyLength_le_length (h : HookSettings) (length : UInt32) : h.copyLength length ≤ length.toNat :=
  Nat.min_le_left _ _

theorem observe_alike (h : HookSettings) (hfg : f.Alike g) (s : HookState) : h.observe f s = h.observe g s := by
  unfold observe
  rw [hfg.classification, hfg.length]

/-- A capture copies no more than is declared, and neither frame is too short for that. -/
theorem capture_alike (h : HookSettings) (hfg : f.Alike g) (s : HookState) : h.capture f s = h.capture g s := by
  have hcopy := h.copyLength_le_length g.length
  have hf : ¬f.data.length < h.copyLength g.length := by
    have := hfg.reaches
    rw [hfg.length] at this
    omega
  have hg : ¬g.data.length < h.copyLength g.length := by
    have := hfg.reaches'
    omega
  unfold capture
  simp only [hfg.length, if_neg hf, if_neg hg, hfg.take hcopy]

theorem onFrame_alike (h : HookSettings) (hfg : f.Alike g) (s : HookState) : h.onFrame f s = h.onFrame g s := by
  rw [onFrame_eq, onFrame_eq, hfg.classification, h.observe_alike hfg, h.capture_alike hfg]

theorem enforce_alike (h : HookSettings) (hfg : f.Alike g) (s : HookState) : h.enforce f s = h.enforce g s := by
  unfold enforce
  rw [h.observe_alike hfg]

end HookSettings

/-! ### Runs of calls -/

/-- Two steps of a session are the same but for frames that are alike. -/
inductive SessionStep.Alike : SessionStep → SessionStep → Prop
  | onFrame {f g : Frame} (hfg : f.Alike g) : Alike (.onFrame f) (.onFrame g)
  | handle {f g : Frame} (hfg : f.Alike g) : Alike (.handle f) (.handle g)
  | enforce {f g : Frame} (hfg : f.Alike g) : Alike (.enforce f) (.enforce g)
  | same (s : SessionStep) : Alike s s

namespace Session
variable {h : HookSettings}

theorem step_alike {s s' : SessionStep} (hs : s.Alike s') (x : Session) : x.step h s = x.step h s' := by
  cases hs with
  | onFrame hfg => simp only [step, h.onFrame_alike hfg]
  | handle hfg => simp only [step, HookSettings.handle, h.onFrame_alike hfg]
  | enforce hfg => simp only [step, h.enforce_alike hfg]
  | same => rfl

/-- A run looks the same from outside and within, step for step. -/
theorem run_alike {steps steps' : List SessionStep} (hs : List.Forall₂ SessionStep.Alike steps steps') (x : Session) :
    x.run h steps = x.run h steps' := by
  induction hs generalizing x with
  | nil => rfl
  | cons hstep _ ih =>
    simp only [run, step_alike hstep, ih]

/-- Bytes behind the declared length influence nothing, whatever the ports, the limit on captures and the sink are and
    whatever state the hooks are in. On two frames that are alike within their declared length each hook answers the
    same and leaves the same state: the queue with all that is captured, the counters, and all that is reported and
    told. And two runs of hooks and consumer that differ in such frames only give the same answers and go through the
    same states. -/
theorem stale_bytes_unseen (h : HookSettings) {f g : Frame} (hfg : f.Alike g) {steps steps' : List SessionStep}
    (hs : List.Forall₂ SessionStep.Alike steps steps') :
    (∀ s, h.enforce f s = h.enforce g s ∧ h.onFrame f s = h.onFrame g s ∧ h.handle f s = h.handle g s) ∧
      ∀ x : Session, x.run h steps = x.run h steps' := by
  refine ⟨fun s => ⟨h.enforce_alike hfg s, h.onFrame_alike hfg s, ?_⟩, run_alike hs⟩
  unfold HookSettings.handle
  rw [h.onFrame_alike hfg]

/-- A datagram in a longer buffer is captured as it is in a buffer of its own. And where 36 bytes are declared and the
    next two would complete a watched port, these are not read. -/
theorem stale_bytes_unseen_datagram :
    let h : HookSettings := ⟨[8000], 60, .recording⟩
    let whole : Frame := ⟨Frame.datagram.data ++ [1, 2, 3], 42⟩
    let cut (rest : Bytes) : Frame := ⟨Frame.datagram.data.take 36 ++ rest, 36⟩
    let s := (Session.create 100).hooks
    (h.onFrame whole s).1 = .captured 42 42 ∧ h.onFrame whole s = h.onFrame .datagram s ∧
      (h.enforce (cut [0x1f, 0x40, 0, 8, 0, 0]) s).1 = .reject ∧
      (Session.create 100).run h [.onFrame whole, .enforce (cut [0x1f, 0x40, 0, 8, 0, 0]), .consume .receive] =
        (Session.create 100).run h [.onFrame .datagram, .enforce (cut []), .consume .receive] := by
  intro h whole cut s
  have hwhole : whole.Alike .datagram := ⟨by decide, by decide, by decide, by decide⟩
  have hcut : (cut [0x1f, 0x40, 0, 8, 0, 0]).Alike (cut []) := ⟨by decide, by decide, by decide, by decide⟩
  have hsteps : List.Forall₂ SessionStep.Alike
      [.onFrame whole, .enforce (cut [0x1f, 0x40, 0, 8, 0, 0]), .consume .receive]
      [.onFrame .datagram, .enforce (cut []), .consume .receive] :=
    .cons (.onFrame hwhole) (.cons (.enforce hcut) (.cons (.same _) .nil))
  obtain ⟨hcalls, hruns⟩ := stale_bytes_unseen h hwhole hsteps
  exact ⟨by decide, (hcalls s).2.1, by decide, hruns _⟩

end Session
end FrameSentry
