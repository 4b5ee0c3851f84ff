import FrameSentry.Hook.Session
import FrameSentry.Proofs.Counters.Sums
import FrameSentry.Proofs.Hook.Capture

/-! The books of the hooks. Each call of a hook enters what became of its frame twice, in a counter and in a metric: how
    the frame was judged, and if it was to be captured how that went; and the enforcing hook enters its verdict. So
    however the calls and the steps of the consumer follow one another, every frame is accounted for exactly once, and
    the counters and the metrics agree as long as no counter wraps around. -/

namespace FrameSentry

/-! ### What the metrics add up to -/

/-- The value of a metric after a change. -/
def MetricChange.apply (value : Nat) : MetricChange → Nat
  | .increment n => value + n.toNat
  | .absolute n => max value n.toNat

namespace Telemetry

/-- The value of a metric, as a number that no word bounds. -/
def value (t : Telemetry) (name : String) (labels : List (String × String)) : Nat :=
  (t.metrics.filter fun u => u.name = name ∧ u.labels = labels).foldl (fun n u => u.change.apply n) 0

/-- The frames that were told with an outcome. -/
def frames (t : Telemetry) (outcome : String) : Nat := t.value Metrics.framesTotal [(Metrics.outcomeLabel, outcome)]

/-- The captures that were told with a result. -/
def captures (t : Telemetry) (result : String) : Nat := t.value Metrics.capturesTotal [(Metrics.resultLabel, result)]

/-- The verdicts that were told. -/
def verdicts (t : Telemetry) (v : Verdict) : Nat := t.value Metrics.verdictsTotal [(Metrics.verdictLabel, v.name)]

theorem value_count (t : Telemetry) (name name' : String) (labels labels' : List (String × String)) :
    (t.count name labels).value name' labels' = t.value name' labels' +
      if (name, labels) = (name', labels') then 1 else 0 := by
  unfold value count
  rw [List.filter_append, List.foldl_append]
  by_cases hsame : name = name' ∧ labels = labels'
  · simp [hsame, MetricChange.apply]
  · simp [hsame]

end Telemetry

/-- The metric that counts a report, with its labels. -/
def Diagnostic.metric : Diagnostic → String × List (String × String)
  | .unclassified c _ => (Metrics.framesTotal, [(Metrics.outcomeLabel, c.name)])
  | .noMatch _ => (Metrics.framesTotal, [(Metrics.outcomeLabel, "no_match")])
  | .matched _ _ => (Metrics.framesTotal, [(Metrics.outcomeLabel, "matched")])
  | .verdict v => (Metrics.verdictsTotal, [(Metrics.verdictLabel, v.name)])
  | .captured _ _ => (Metrics.capturesTotal, [(Metrics.resultLabel, "captured")])
  | .captureFailed cause => (Metrics.capturesTotal, [(Metrics.resultLabel, cause.label)])
  | .malformedSample _ => (Metrics.kernelMalformedSamplesTotal, [])

/-- A report is told in one metric, once. -/
theorem Telemetry.value_tell (t : Telemetry) (d : Diagnostic) (name : String) (labels : List (String × String)) :
    (t.tell d).value name labels = t.value name labels + if d.metric = (name, labels) then 1 else 0 := by
  cases d <;> exact value_count _ _ _ _ _

/-- The outcome is how a frame was judged; any other is how a capture went. -/
def Outcome.judged : Outcome → Bool
  | .truncated | .unsupportedLinkType | .unsupportedTransport | .noMatch | .matched => true
  | .captured | .reserveFailed | .copyFailed => false

/-- The outcome that a report tells of. -/
def Diagnostic.outcome? : Diagnostic → Option Outcome
  | .unclassified c _ => c.failure?
  | .noMatch _ => some .noMatch
  | .matched _ _ => some .matched
  | .captured _ _ => some .captured
  | .captureFailed (.copyFailure _ _) => some .copyFailed
  | .captureFailed _ => some .reserveFailed
  | .verdict _ | .malformedSample _ => none

namespace Telemetry

/-- How often an outcome was told. A failed reservation is told in two ways. -/
def told (t : Telemetry) (o : Outcome) : Nat :=
  match o with
  | .reserveFailed => t.captures "buffer_full" + t.captures "closed"
  | .captured | .copyFailed => t.captures o.label
  | _ => t.frames o.label

theorem told_of_judged (t : Telemetry) {o : Outcome} (ho : o.judged = true) : t.told o = t.frames o.label := by
  cases o <;> first | rfl | cases ho

/-- A report is told once, under its own outcome. -/
theorem told_tell (t : Telemetry) (d : Diagnostic) (o : Outcome) :
    (t.tell d).told o = t.told o + if d.outcome? = some o then 1 else 0 := by
  have hnames : Metrics.framesTotal ≠ Metrics.capturesTotal ∧ Metrics.capturesTotal ≠ Metrics.framesTotal ∧
      Metrics.verdictsTotal ≠ Metrics.framesTotal ∧ Metrics.verdictsTotal ≠ Metrics.capturesTotal ∧
      Metrics.kernelMalformedSamplesTotal ≠ Metrics.framesTotal ∧
      Metrics.kernelMalformedSamplesTotal ≠ Metrics.capturesTotal := by decide
  cases d with
  | unclassified c length =>
    cases c <;> cases o <;> simp [told, frames, captures, value_tell, Diagnostic.metric, Diagnostic.outcome?,
      Classification.failure?, Classification.name, Outcome.label, hnames]
  | captureFailed cause =>
    cases cause <;> cases o <;> simp [told, frames, captures, value_tell, Diagnostic.metric, Diagnostic.outcome?,
      CaptureError.label, Outcome.label, hnames] <;> omega
  | _ =>
    cases o <;> simp [told, frames, captures, value_tell, Diagnostic.metric, Diagnostic.outcome?, Outcome.label, hnames]

/-- Only the report of a verdict is told among the verdicts. -/
theorem verdicts_tell (t : Telemetry) (d : Diagnostic) (v : Verdict) :
    (t.tell d).verdicts v = t.verdicts v + if d = .verdict v then 1 else 0 := by
  cases d with
  | verdict v' => cases v <;> cases v' <;> simp [verdicts, value_tell, Diagnostic.metric, Verdict.name]
  | _ =>
    simp [verdicts, value_tell, Diagnostic.metric, Metrics.framesTotal, Metrics.capturesTotal, Metrics.verdictsTotal,
      Metrics.kernelMalformedSamplesTotal]

end Telemetry

/-! ### Entries -/

/-- Between two states of the hooks these outcomes and these verdicts were entered: each outcome in its counter and in
    its metric, each verdict in its metric. -/
structure HookState.Entered (s s' : HookState) (outcomes : List Outcome) (verdicts : List Verdict) : Prop where
  counted : ∀ o, s'.counters.get o = s.counters.get o + UInt64.ofNat (outcomes.count o)
  told : ∀ o, s'.telemetry.told o = s.telemetry.told o + outcomes.count o
  answered : ∀ v, s'.telemetry.verdicts v = s.telemetry.verdicts v + verdicts.count v

namespace HookState.Entered
variable {s s' s'' : HookState} {outcomes outcomes' : List Outcome} {verdicts verdicts' : List Verdict}

theorem refl (s : HookState) : s.Entered s [] [] :=
  ⟨fun _ => (UInt64.add_zero _).symm, fun _ => rfl, fun _ => rfl⟩

theorem trans (h₁ : s.Entered s' outcomes verdicts) (h₂ : s'.Entered s'' outcomes' verdicts') :
    s.Entered s'' (outcomes ++ outcomes') (verdicts ++ verdicts') := by
  refine ⟨fun o => ?_, fun o => ?_, fun v => ?_⟩
  · rw [h₂.counted, h₁.counted, List.count_append, UInt64.ofNat_add, UInt64.add_assoc]
  · rw [h₂.told, h₁.told, List.count_append, Nat.add_assoc]
  · rw [h₂.answered, h₁.answered, List.count_append, Nat.add_assoc]

/-- The queue is not in the books. -/
theorem setQueue (s : HookState) (q : Queue) : s.Entered (s.setQueue q) [] [] :=
  ⟨fun _ => (UInt64.add_zero _).symm, fun _ => rfl, fun _ => rfl⟩

/-- An outcome that is counted and reported. -/
theorem report (s : HookState) {o : Outcome} {d : Diagnostic} (hd : d.outcome? = some o) :
    s.Entered ((s.count o).report .telling d) [o] [] := by
  refine ⟨fun o' => ?_, fun o' => ?_, fun v => ?_⟩
  · rw [report_counters, count_counters, Counters.get_bump, List.count_singleton]
    simp
    split <;> rfl
  · show (s.telemetry.tell d).told o' = _
    rw [Telemetry.told_tell, hd, List.count_singleton]
    simp
  · show (s.telemetry.tell d).verdicts v = _
    rw [Telemetry.verdicts_tell, if_neg (by rintro rfl; cases hd)]
    rfl

/-- A verdict that is reported. -/
theorem verdict (s : HookState) (v : Verdict) : s.Entered (s.report .telling (.verdict v)) [] [v] := by
  refine ⟨fun o => ?_, fun o => ?_, fun v' => ?_⟩
  · rw [report_counters]
    exact (UInt64.add_zero _).symm
  · show (s.telemetry.tell _).told o = _
    rw [Telemetry.told_tell]
    rfl
  · show (s.telemetry.tell _).verdicts v' = _
    rw [Telemetry.verdicts_tell, List.count_singleton]
    simp

end HookState.Entered

/-! ### The calls of the hooks -/

theorem Classification.outcome_of_not_matched {c : Classification} {ports : List UInt16}
    (hc : (c.matched? ports).isSome = false) : c.outcome ports = .truncated ∨ c.outcome ports = .unsupportedLinkType ∨
      c.outcome ports = .unsupportedTransport ∨ c.outcome ports = .noMatch := by
  cases c with
  | truncated => exact Or.inl rfl
  | unsupportedLinkType => exact Or.inr (Or.inl rfl)
  | unsupportedTransport => exact Or.inr (Or.inr (Or.inl rfl))
  | classified f =>
    have hf : f.matchesPorts ports = false := by simpa [matched?, frame?, Option.filter] using hc
    exact Or.inr (Or.inr (Or.inr (by simp [outcome, hf])))

namespace HookSettings
variable {h : HookSettings}

/-- A frame that is judged. -/
theorem observe_entered (hsink : h.sink = .telling) (frame : Frame) (s : HookState) :
    s.Entered (h.observe frame s).2 [frame.classification.outcome h.ports] [] := by
  unfold observe Classification.outcome
  rw [hsink]
  cases frame.classification with
  | classified f =>
    simp only
    split
    · exact .report s rfl
    · exact .report s rfl
  | truncated => exact .report s rfl
  | unsupportedLinkType => exact .report s rfl
  | unsupportedTransport => exact .report s rfl

/-- An attempt to capture has one outcome. -/
theorem capture_entered (hsink : h.sink = .telling) (frame : Frame) (s : HookState) :
    ∃ o, s.Entered (h.capture frame s).2 [o] [] ∧ (o = .captured ∨ o = .reserveFailed ∨ o = .copyFailed) := by
  unfold capture drop
  rw [hsink]
  simp only
  split
  · rename_i cause hreserve
    refine ⟨.reserveFailed, .report s ?_, Or.inr (Or.inl rfl)⟩
    rcases Queue.reserve_error hreserve with rfl | ⟨-, rfl⟩ <;> rfl
  rename_i slot q hreserve
  obtain ⟨hopen, -, -, rfl⟩ := Queue.reserve_ok hreserve
  split
  · exact ⟨.copyFailed, (HookState.Entered.setQueue s _).trans (.report _ rfl), Or.inr (Or.inr rfl)⟩
  split
  · rename_i cause hfill
    refine ⟨.copyFailed, (HookState.Entered.setQueue s _).trans (.report _ ?_), Or.inr (Or.inr rfl)⟩
    unfold Slot.fill at hfill
    split at hfill <;> cases hfill
    rfl
  · -- The queue is open after the reservation, so it is when the slot is committed.
    simp only [Queue.commit, hopen]
    exact ⟨.captured, (HookState.Entered.setQueue s _).trans (.report _ rfl), Or.inl rfl⟩

end HookSettings

/-! ### Runs of calls -/

namespace SessionStep

/-- The step is a call of a hook. -/
def calls : SessionStep → Bool
  | .onFrame _ | .handle _ | .enforce _ => true
  | .forward _ | .consume _ => false

/-- The step is a call of the enforcing hook. -/
def enforces : SessionStep → Bool
  | .enforce _ => true
  | _ => false

/-- The step is a call of a hook, or one of the consumer. -/
def Hooked (s : SessionStep) : Prop := ∀ sample, s ≠ .forward sample

/-- The verdict with which the enforcing hook answers. -/
def verdict? : SessionStep → SessionReply → Option Verdict
  | .enforce _, .verdict v => some v
  | _, _ => none

end SessionStep

namespace Session

/-- The state after some steps. -/
def perform (h : HookSettings) (x : Session) (steps : List SessionStep) : Session :=
  steps.foldl (fun x s => (x.step h s).2) x

/-- The verdicts of the enforcing hook in a run. -/
def verdicts (h : HookSettings) : Session → List SessionStep → List Verdict
  | _, [] => []
  | x, s :: rest => (s.verdict? (x.step h s).1).toList ++ verdicts h (x.step h s).2 rest

/-- No step of a run makes a counter less than it was. This is so as long as no counter reaches 2^64, where it would
    start again from zero. -/
def Rises (h : HookSettings) : Session → List SessionStep → Prop
  | _, [] => True
  | x, s :: rest =>
    (∀ o, x.hooks.counters.get o ≤ (x.step h s).2.hooks.counters.get o) ∧ Rises h (x.step h s).2 rest

end Session

/-- What a number of calls, some of them of the enforcing hook, enter: one judgement for each call, and for each frame
    that matches either how its capture went or that it was accepted. -/
structure Balanced (calls enforcements : Nat) (outcomes : List Outcome) (verdicts : List Verdict) : Prop where
  judged : outcomes.countP Outcome.judged = calls
  matched : outcomes.count .matched = outcomes.count .captured + outcomes.count .reserveFailed +
    outcomes.count .copyFailed + verdicts.count .accept
  answered : verdicts.length = enforcements

theorem Balanced.append {calls calls' enforcements enforcements' : Nat} {outcomes outcomes' : List Outcome}
    {verdicts verdicts' : List Verdict} (h₁ : Balanced calls enforcements outcomes verdicts)
    (h₂ : Balanced calls' enforcements' outcomes' verdicts') :
    Balanced (calls + calls') (enforcements + enforcements') (outcomes ++ outcomes') (verdicts ++ verdicts') := by
  refine ⟨?_, ?_, ?_⟩
  · rw [List.countP_append, h₁.judged, h₂.judged]
  · have := h₁.matched
    have := h₂.matched
    simp only [List.count_append]
    omega
  · rw [List.length_append, h₁.answered, h₂.answered]

namespace Session
variable {h : HookSettings}

theorem onFrame_entered (hsink : h.sink = .telling) (frame : Frame) (s : HookState) : ∃ outcomes,
    s.Entered (h.onFrame frame s).2 outcomes [] ∧ Balanced 1 0 outcomes [] ∧ ∀ o, outcomes.count o ≤ 1 := by
  have hobserve := h.observe_entered hsink frame s
  rw [h.onFrame_eq]
  cases hmatched : (frame.classification.matched? h.ports).isSome with
  | true =>
    rw [Classification.outcome_of_matched hmatched] at hobserve
    obtain ⟨o, hcapture, ho⟩ := h.capture_entered hsink frame (h.observe frame s).2
    refine ⟨_, hobserve.trans hcapture, ?_⟩
    rcases ho with rfl | rfl | rfl <;> exact ⟨⟨rfl, rfl, rfl⟩, fun o => by cases o <;> decide⟩
  | false =>
    refine ⟨_, hobserve, ?_⟩
    rcases Classification.outcome_of_not_matched hmatched with ho | ho | ho | ho <;> rw [ho] <;>
      exact ⟨⟨rfl, rfl, rfl⟩, fun _ => List.count_le_length⟩

theorem enforce_entered (hsink : h.sink = .telling) (frame : Frame) (s : HookState) : ∃ outcomes,
    s.Entered (h.enforce frame s).2 outcomes [(h.enforce frame s).1] ∧
      Balanced 1 1 outcomes [(h.enforce frame s).1] ∧ ∀ o, outcomes.count o ≤ 1 := by
  have henforce : (h.enforce frame s).2 =
      (h.observe frame s).2.report .telling (.verdict (frame.classification.enforce h.ports)) := by
    rw [← hsink, ← h.observe_fst frame s]
    rfl
  rw [h.enforce_fst, henforce]
  refine ⟨_, (h.observe_entered hsink frame s).trans (.verdict _ _), ?_, fun _ => List.count_le_length⟩
  unfold Classification.enforce
  cases hmatched : (frame.classification.matched? h.ports).isSome with
  | true =>
    rw [Classification.outcome_of_matched hmatched]
    exact ⟨rfl, rfl, rfl⟩
  | false =>
    rcases Classification.outcome_of_not_matched hmatched with ho | ho | ho | ho <;> rw [ho] <;>
      exact ⟨rfl, rfl, rfl⟩

/-- Every step enters at most once what it has to. -/
theorem step_entered (hsink : h.sink = .telling) (x : Session) {s : SessionStep} (hs : s.Hooked) : ∃ outcomes,
    x.hooks.Entered (x.step h s).2.hooks outcomes (s.verdict? (x.step h s).1).toList ∧
      Balanced (if s.calls then 1 else 0) (if s.enforces then 1 else 0) outcomes
        (s.verdict? (x.step h s).1).toList ∧
      ∀ o, outcomes.count o ≤ if s.calls then 1 else 0 := by
  cases s with
  | onFrame frame => exact onFrame_entered hsink frame x.hooks
  | handle frame => exact onFrame_entered hsink frame x.hooks
  | enforce frame => exact enforce_entered hsink frame x.hooks
  | forward sample => exact absurd rfl (hs sample)
  | consume s => exact ⟨[], .setQueue x.hooks _, ⟨rfl, rfl, rfl⟩, fun o => Nat.zero_le _⟩

/-- A counter that is not less after one more has no more wrapped around than after none. -/
theorem toNat_add_of_le {a : UInt64} {n : Nat} (hn : n ≤ 1) (hle : a ≤ a + UInt64.ofNat n) :
    (a + UInt64.ofNat n).toNat = a.toNat + n := by
  rw [UInt64.le_iff_toNat_le] at hle
  have := a.toNat_lt
  rw [UInt64.toNat_add, UInt64.toNat_ofNat'] at hle ⊢
  omega

/-- What a run enters is what its steps enter, and while no counter wraps around each is increased by just that. -/
theorem perform_entered (hsink : h.sink = .telling) {steps : List SessionStep} (hs : ∀ s ∈ steps, s.Hooked)
    (x : Session) : ∃ outcomes, x.hooks.Entered (x.perform h steps).hooks outcomes (x.verdicts h steps) ∧
      Balanced (steps.countP SessionStep.calls) (steps.countP SessionStep.enforces) outcomes (x.verdicts h steps) ∧
      (x.Rises h steps → ∀ o, ((x.perform h steps).hooks.counters.get o).toNat =
        (x.hooks.counters.get o).toNat + outcomes.count o) := by
  induction steps generalizing x with
  | nil => exact ⟨[], .refl _, ⟨rfl, rfl, rfl⟩, fun _ _ => rfl⟩
  | cons s rest ih =>
    obtain ⟨outcomes, hentered, hbalanced, honce⟩ := step_entered hsink x (hs s List.mem_cons_self)
    obtain ⟨outcomes', hentered', hbalanced', hcount'⟩ :=
      ih (fun t ht => hs t (List.mem_cons_of_mem _ ht)) (x.step h s).2
    refine ⟨outcomes ++ outcomes', hentered.trans hentered', ?_, fun hrises o => ?_⟩
    · rw [List.countP_cons, List.countP_cons, Nat.add_comm, Nat.add_comm (rest.countP SessionStep.enforces)]
      exact hbalanced.append hbalanced'
    · have hstep : ((x.step h s).2.hooks.counters.get o).toNat =
          (x.hooks.counters.get o).toNat + outcomes.count o := by
        have hle := hrises.1 o
        rw [hentered.counted o] at hle ⊢
        refine toNat_add_of_le (Nat.le_trans (honce o) ?_) hle
        split <;> omega
      have hrest := hcount' hrises.2 o
      show ((perform h (x.step h s).2 rest).hooks.counters.get o).toNat = _
      rw [hrest, hstep, List.count_append, Nat.add_assoc]

/-- With fewer than 2^64 calls no counter wraps around. -/
theorem rises_of_calls (hsink : h.sink = .telling) {steps : List SessionStep} (hs : ∀ s ∈ steps, s.Hooked)
    {x : Session} (hcalls : ∀ o, (x.hooks.counters.get o).toNat + steps.countP SessionStep.calls < wordLimit) :
    x.Rises h steps := by
  induction steps generalizing x with
  | nil => trivial
  | cons s rest ih =>
    obtain ⟨outcomes, hentered, -, honce⟩ := step_entered hsink x (hs s List.mem_cons_self)
    have hstep : ∀ o, ((x.step h s).2.hooks.counters.get o).toNat =
        (x.hooks.counters.get o).toNat + outcomes.count o := by
      intro o
      have := hcalls o
      have := honce o
      rw [List.countP_cons] at *
      rw [hentered.counted o, UInt64.toNat_add, UInt64.toNat_ofNat']
      unfold wordLimit at *
      omega
    refine ⟨fun o => ?_, ih (fun t ht => hs t (List.mem_cons_of_mem _ ht)) fun o => ?_⟩
    · rw [UInt64.le_iff_toNat_le, hstep o]
      omega
    · have := hcalls o
      have := honce o
      rw [List.countP_cons] at *
      rw [hstep o]
      omega

end Session

/-! ### The account -/

theorem Outcome.countP_judged (outcomes : List Outcome) : outcomes.countP judged = outcomes.count .truncated +
    outcomes.count .unsupportedLinkType + outcomes.count .unsupportedTransport + outcomes.count .noMatch +
    outcomes.count .matched := by
  induction outcomes with
  | nil => rfl
  | cons o rest ih =>
    rw [List.countP_cons, ih]
    cases o <;> simp [judged] <;> omega

theorem Verdict.count_add_count (verdicts : List Verdict) :
    verdicts.count .accept + verdicts.count .reject = verdicts.length := by
  induction verdicts with
  | nil => rfl
  | cons v rest ih =>
    rw [List.length_cons, ← ih]
    cases v <;> simp <;> omega

namespace Session
variable {h : HookSettings} {steps : List SessionStep}

/-- Every frame is accounted for exactly once, whatever calls of the hooks and steps of the consumer follow one another,
    as long as no counter wraps around. The number of frames is the number of calls (which the word that holds it cannot
    exceed). Each frame that matches was captured, found no room, could not be copied, or was accepted. And the metrics
    agree with the counters: each outcome of judging a frame, each result of a capture, where the full buffer and the
    closed queue together make the failed reservations, and the verdicts with the calls of the enforcing hook. -/
theorem every_frame_accounted (hsink : h.sink = .telling) (hs : ∀ s ∈ steps, s.Hooked) (capacity : Nat)
    (hrises : (Session.create capacity).Rises h steps) :
    let after := (Session.create capacity).perform h steps
    let counters := after.hooks.counters
    let told := after.hooks.telemetry
    let calls := steps.countP SessionStep.calls
    let accepted := ((Session.create capacity).verdicts h steps).count .accept
    counters.frames.toNat = min calls (wordLimit - 1) ∧ (calls < wordLimit → counters.frames.toNat = calls) ∧
      counters.matched.toNat =
        counters.captured.toNat + counters.reserveFailed.toNat + counters.copyFailed.toNat + accepted ∧
      (∀ o : Outcome, o.judged → told.frames o.label = (counters.get o).toNat) ∧
      told.verdicts .accept + told.verdicts .reject = steps.countP SessionStep.enforces ∧
      told.captures "captured" = counters.captured.toNat ∧
      told.captures "copy_failed" = counters.copyFailed.toNat ∧
      told.captures "buffer_full" + told.captures "closed" = counters.reserveFailed.toNat := by
  intro after counters told calls accepted
  obtain ⟨outcomes, hentered, hbalanced, hcount⟩ := perform_entered hsink hs (Session.create capacity)
  have hcounters : ∀ o, (counters.get o).toNat = outcomes.count o := by
    intro o
    rw [hcount hrises o]
    cases o <;> exact Nat.zero_add _
  have htold : ∀ o, told.told o = (counters.get o).toNat := by
    intro o
    rw [hcounters o, hentered.told o]
    cases o <;> exact Nat.zero_add _
  have hanswered : ∀ v, told.verdicts v = ((Session.create capacity).verdicts h steps).count v := by
    intro v
    rw [hentered.answered v]
    exact Nat.zero_add _
  have hframes : counters.frames.toNat = min calls (wordLimit - 1) := by
    have hcalls : calls = outcomes.countP Outcome.judged := hbalanced.judged.symm
    rw [Counters.frames_toNat, hcalls, Outcome.countP_judged, ← hcounters, ← hcounters, ← hcounters, ← hcounters,
      ← hcounters]
    rfl
  refine ⟨hframes, fun hcalls => by omega, ?_, fun o ho => ?_, ?_, htold .captured, htold .copyFailed,
    htold .reserveFailed⟩
  · have hmatched := hbalanced.matched
    rw [← hcounters, ← hcounters, ← hcounters, ← hcounters] at hmatched
    exact hmatched
  · rw [← told.told_of_judged ho]
    exact htold o
  · rw [hanswered, hanswered, Verdict.count_add_count, hbalanced.answered]

/-- Seven calls: a frame that is too short to copy, two datagrams that are captured, one that finds the queue full and
    one that finds it closed, and two frames that are judged, of which one is accepted. -/
theorem every_frame_accounted_mixed :
    let h : HookSettings := ⟨[8000], Record.captureLimit, .telling⟩
    let steps : List SessionStep := [.onFrame ⟨Frame.datagram.data, 100⟩, .handle .datagram, .handle .datagram,
      .onFrame .datagram, .consume .close, .onFrame .datagram, .enforce .datagram, .enforce (.ofData [])]
    let after := (Session.create 110).perform h steps
    let told := after.hooks.telemetry
    after.hooks.counters = ⟨1, 0, 0, 0, 6, 2, 2, 1⟩ ∧ after.hooks.counters.frames.toNat = 7 ∧
      told.frames "truncated" = 1 ∧ told.frames "matched" = 6 ∧ told.verdicts .accept + told.verdicts .reject = 2 ∧
      told.captures "captured" = 2 ∧ told.captures "copy_failed" = 1 ∧
      told.captures "buffer_full" + told.captures "closed" = 2 := by
  intro h steps after told
  have hs : ∀ s ∈ steps, s.Hooked := by simp [steps, SessionStep.Hooked]
  have hrises : (Session.create 110).Rises h steps := by
    refine rises_of_calls rfl hs fun o => ?_
    cases o <;> decide
  obtain ⟨-, hframes, -, htold, hverdicts, hcaptured, hcopy, hreserve⟩ := every_frame_accounted rfl hs 110 hrises
  have hcounters : after.hooks.counters = ⟨1, 0, 0, 0, 6, 2, 2, 1⟩ := by decide +kernel
  have hseven : after.hooks.counters.frames.toNat = 7 := hframes (by decide)
  simp only [show (Session.create 110).perform h steps = after from rfl, hcounters] at htold hcaptured hcopy hreserve
  exact ⟨hcounters, hseven, htold .truncated rfl, htold .matched rfl, hverdicts, hcaptured, hcopy, hreserve⟩

end Session
end FrameSentry
