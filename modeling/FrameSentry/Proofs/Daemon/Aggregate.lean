import Mathlib.Data.List.TakeWhile
import Mathlib.Order.MinMax
import FrameSentry.Health

/-! The health of several parts together. It is that of the worst part that is enabled, in whatever order the parts come
    and whatever is said of the others. Its reason tells of the parts that it comes from, in their order: of all that do not
    work, and of those that have lost something as far as they come before the first of these. A tally of the parts seen so
    far says both, how bad the worst of them is and what is told of them, and each further part keeps this so. -/

namespace FrameSentry

namespace Health
variable {x : Health}

/-- How bad it is. -/
def severity : Health → Nat
  | .healthy => 0
  | .degraded _ => 1
  | .unhealthy _ => 2

def isDegraded : Health → Bool
  | .degraded _ => true
  | _ => false

/-- What is lost, or why it does not work. -/
def reason : Health → String
  | .healthy => ""
  | .degraded reason => reason
  | .unhealthy reason => reason

theorem isHealthy_iff : x = .healthy ↔ ¬ 1 ≤ x.severity := by cases x <;> simp [severity]

theorem isDegraded_iff : (∃ reason, x = .degraded reason) ↔ 1 ≤ x.severity ∧ ¬ 2 ≤ x.severity := by
  cases x <;> simp [severity]

theorem isUnhealthy_iff : (∃ reason, x = .unhealthy reason) ↔ 2 ≤ x.severity := by cases x <;> simp [severity]

theorem two_le_severity : 2 ≤ x.severity ↔ x.isUnhealthy = true := by cases x <;> simp [severity, isUnhealthy]

theorem one_le_severity : 1 ≤ x.severity ↔ x.isDegraded = true ∨ x.isUnhealthy = true := by
  cases x <;> simp [severity, isDegraded, isUnhealthy]

end Health

namespace PartHealth
variable {parts seen : List PartHealth} {t : Tally} {p : PartHealth}

/-! ### What is told -/

/-- What is told of a part. -/
def line (p : PartHealth) : String := s!"{p.name}: {p.status.reason}"

/-- What is told of several parts. -/
def joined (parts : List PartHealth) : String := "; ".intercalate (parts.map line)

/-- The parts that are told of: those that have lost something, up to the first that does not work, and all that do not
    work. -/
def told (parts : List PartHealth) : List PartHealth :=
  (parts.takeWhile fun p => !p.status.isUnhealthy).filter (·.status.isDegraded) ++ parts.filter (·.status.isUnhealthy)

theorem takeWhile_of_working (h : ∀ p ∈ seen, p.status.isUnhealthy = false) (later : List PartHealth) :
    (seen ++ later).takeWhile (fun p => !p.status.isUnhealthy) =
      seen ++ later.takeWhile fun p => !p.status.isUnhealthy :=
  List.takeWhile_append_of_pos fun p hp => by rw [h p hp]; rfl

theorem takeWhile_of_unhealthy (h : ∃ p ∈ seen, p.status.isUnhealthy = true) (later : List PartHealth) :
    (seen ++ later).takeWhile (fun p => !p.status.isUnhealthy) = seen.takeWhile fun p => !p.status.isUnhealthy := by
  induction seen with
  | nil => simp at h
  | cons p rest ih =>
    cases hp : p.status.isUnhealthy with
    | true => simp [hp]
    | false =>
      have hrest : ∃ p ∈ rest, p.status.isUnhealthy = true := by simpa [hp] using h
      simp [hp, ih hrest]

theorem told_of_working (h : ∀ p ∈ seen, p.status.isUnhealthy = false) :
    told seen = seen.filter (·.status.isDegraded) := by
  have hnone : seen.filter (·.status.isUnhealthy) = [] := by simpa using h
  have htake := takeWhile_of_working h []
  rw [List.takeWhile_nil, List.append_nil] at htake
  rw [told, htake, hnone, List.append_nil]

theorem told_append_of_working (h : ∀ p ∈ seen, p.status.isUnhealthy = false) (p : PartHealth) :
    told (seen ++ [p]) = if p.status.isHealthy then told seen else told seen ++ [p] := by
  have hnone : seen.filter (·.status.isUnhealthy) = [] := by simpa using h
  rw [told_of_working h, told, takeWhile_of_working h, List.filter_append, List.filter_append, hnone]
  cases hp : p.status <;> simp [hp, Health.isHealthy, Health.isDegraded, Health.isUnhealthy]

theorem told_append_of_unhealthy (h : ∃ p ∈ seen, p.status.isUnhealthy = true) (p : PartHealth) :
    told (seen ++ [p]) = if p.status.isUnhealthy then told seen ++ [p] else told seen := by
  rw [told, takeWhile_of_unhealthy h, List.filter_append, ← List.append_assoc]
  cases hp : p.status.isUnhealthy <;> simp [told, hp]

/-- The parts that are told of are in their order. -/
theorem told_sublist (parts : List PartHealth) : (told parts).Sublist parts := by
  have hsplit := List.takeWhile_append_dropWhile (p := fun p : PartHealth => !p.status.isUnhealthy) (l := parts)
  generalize hearly : parts.takeWhile (fun p => !p.status.isUnhealthy) = early at hsplit
  generalize parts.dropWhile (fun p => !p.status.isUnhealthy) = late at hsplit
  have hnone : early.filter (·.status.isUnhealthy) = [] := by
    rw [List.filter_eq_nil_iff]
    intro p hp
    rw [← hearly] at hp
    simpa using List.mem_takeWhile_imp hp
  rw [told, hearly, ← hsplit, List.filter_append, hnone, List.nil_append]
  exact List.filter_sublist.append List.filter_sublist

/-- Nothing that is told of one part is lost among the others. -/
theorem line_in_joined (hp : p ∈ parts) : ∃ before after, joined parts = before ++ p.line ++ after := by
  induction parts with
  | nil => exact absurd hp List.not_mem_nil
  | cons q rest ih =>
    by_cases hrest : rest = []
    · subst hrest
      obtain rfl := List.mem_singleton.mp hp
      exact ⟨"", "", by simp [joined]⟩
    · have hcons : joined (q :: rest) = q.line ++ "; " ++ joined rest := by
        rw [joined, List.map_cons, String.intercalate_cons_of_ne_nil (mt List.map_eq_nil_iff.mp hrest)]
        rfl
      rcases List.mem_cons.mp hp with rfl | hp
      · exact ⟨"", "; " ++ joined rest, by rw [hcons]; simp [String.append_assoc]⟩
      · obtain ⟨before, after, hjoined⟩ := ih hp
        exact ⟨q.line ++ "; " ++ before, after, by rw [hcons, hjoined]; simp [String.append_assoc]⟩

/-! ### One more part -/

namespace Tally

/-- Of the parts seen so far the worst is remembered. -/
theorem severity_add (t : Tally) (p : PartHealth) :
    (t.add p).worst.severity = max t.worst.severity p.status.severity := by
  obtain ⟨worst, reasons⟩ := t
  cases worst <;> cases hp : p.status <;> simp [Tally.add, hp, Health.severity, Health.isUnhealthy]

theorem reasons_add_of_working (h : t.worst.isUnhealthy = false) (p : PartHealth) :
    (t.add p).reasons = if p.status.isHealthy then t.reasons else t.reasons ++ [p.line] := by
  unfold Tally.add
  cases hp : p.status <;> simp [h, hp, Health.isHealthy, line, Health.reason]

theorem reasons_add_of_unhealthy (h : t.worst.isUnhealthy = true) (p : PartHealth) :
    (t.add p).reasons = if p.status.isUnhealthy then t.reasons ++ [p.line] else t.reasons := by
  unfold Tally.add
  cases hp : p.status with
  | healthy => rfl
  | degraded reason => exact congrArg Tally.reasons (if_pos h)
  | unhealthy reason => simp [hp, Health.isUnhealthy, line, Health.reason]

/-- What a tally says of the parts seen: it is as bad as one of them, and it has what is told of them. -/
structure Tells (seen : List PartHealth) (t : Tally) : Prop where
  worst : ∀ n, n ≤ t.worst.severity ↔ n = 0 ∨ ∃ p ∈ seen, n ≤ p.status.severity
  reasons : t.reasons = (told seen).map line

namespace Tells

theorem start : Tells [] ⟨.healthy, []⟩ := ⟨fun n => by simp [Health.severity], rfl⟩

theorem isUnhealthy_iff (h : t.Tells seen) : t.worst.isUnhealthy = true ↔ ∃ p ∈ seen, p.status.isUnhealthy = true := by
  rw [← Health.two_le_severity, h.worst]
  simp [Health.two_le_severity]

theorem working (h : t.Tells seen) (hworst : t.worst.isUnhealthy = false) :
    ∀ p ∈ seen, p.status.isUnhealthy = false := by
  intro p hp
  refine Bool.eq_false_iff.mpr fun hunhealthy => ?_
  rw [h.isUnhealthy_iff.mpr ⟨p, hp, hunhealthy⟩] at hworst
  cases hworst

/-- One more part. Whether it is told of depends on the part and on whether one that does not work has been seen. -/
theorem add (h : t.Tells seen) (p : PartHealth) : (t.add p).Tells (seen ++ [p]) := by
  refine ⟨fun n => ?_, ?_⟩
  · rw [severity_add, le_max_iff, h.worst, or_assoc]
    simp [or_and_right, exists_or]
  · cases hworst : t.worst.isUnhealthy with
    | true =>
      rw [reasons_add_of_unhealthy hworst, told_append_of_unhealthy (h.isUnhealthy_iff.mp hworst), h.reasons]
      split <;> simp
    | false =>
      rw [reasons_add_of_working hworst, told_append_of_working (h.working hworst), h.reasons]
      split <;> simp

theorem foldl (h : t.Tells seen) (parts : List PartHealth) : (parts.foldl Tally.add t).Tells (seen ++ parts) := by
  induction parts generalizing t seen with
  | nil => rwa [List.append_nil]
  | cons p rest ih =>
    rw [List.foldl_cons, List.append_cons]
    exact ih (h.add p)

end Tells
end Tally

/-! ### All parts -/

/-- The answer is how bad the tally of the enabled parts is, and the reason is what it tells. -/
theorem aggregate_tally (parts : List PartHealth) : ∃ t : Tally, t.Tells (parts.filter (·.enabled)) ∧
    aggregate parts = match t.worst with
      | .healthy => .healthy
      | .degraded _ => .degraded (joined (told (parts.filter (·.enabled))))
      | .unhealthy _ => .unhealthy (joined (told (parts.filter (·.enabled)))) := by
  have htells := Tally.Tells.start.foldl (parts.filter (·.enabled))
  refine ⟨_, htells, ?_⟩
  unfold aggregate joined
  rw [← List.nil_append (parts.filter (·.enabled)), ← htells.reasons]
  rfl

/-- Parts together are as bad as one of them that is enabled. -/
theorem le_severity {n : Nat} (hn : 0 < n) (parts : List PartHealth) :
    n ≤ (aggregate parts).severity ↔ ∃ p ∈ parts, p.enabled = true ∧ n ≤ p.status.severity := by
  obtain ⟨t, htells, haggregate⟩ := aggregate_tally parts
  have hseverity : (aggregate parts).severity = t.worst.severity := by
    rw [haggregate]
    cases t.worst <;> rfl
  rw [hseverity, htells.worst, or_iff_right (Nat.ne_of_gt hn)]
  simp [and_assoc]

/-- Parts in another order are as bad together, whatever parts that are not enabled are among them. -/
theorem severity_congr {others : List PartHealth} (h : (others.filter (·.enabled)).Perm (parts.filter (·.enabled))) :
    (aggregate others).severity = (aggregate parts).severity := by
  have hle : ∀ {ps qs : List PartHealth}, (ps.filter (·.enabled)).Perm (qs.filter (·.enabled)) →
      (aggregate ps).severity ≤ (aggregate qs).severity := by
    intro ps qs hperm
    rcases Nat.eq_zero_or_pos (aggregate ps).severity with hzero | hpos
    · omega
    · obtain ⟨p, hp, henabled, hbad⟩ := (le_severity hpos ps).mp (Nat.le_refl _)
      have hmem : p ∈ qs.filter (·.enabled) := hperm.mem_iff.mp (List.mem_filter.mpr ⟨hp, henabled⟩)
      exact (le_severity hpos qs).mpr ⟨p, (List.mem_filter.mp hmem).1, henabled, hbad⟩
  exact Nat.le_antisymm (hle h) (hle h.symm)

/-- The answer in terms of the enabled parts that do not work and of those that have lost something. -/
theorem aggregate_eq (parts : List PartHealth) :
    let counted := parts.filter (·.enabled)
    aggregate parts = if counted.filter (·.status.isUnhealthy) ≠ [] then .unhealthy (joined (told counted))
      else if counted.filter (·.status.isDegraded) ≠ [] then
        .degraded (joined (counted.filter (·.status.isDegraded)))
      else .healthy := by
  intro counted
  obtain ⟨t, htells, haggregate⟩ := aggregate_tally parts
  have hsome : ∀ f : PartHealth → Bool, counted.filter f ≠ [] ↔ ∃ p ∈ counted, f p = true := by
    intro f
    rw [ne_eq, List.filter_eq_nil_iff]
    simp
  have htwo : 2 ≤ t.worst.severity ↔ counted.filter (·.status.isUnhealthy) ≠ [] := by
    rw [Health.two_le_severity, htells.isUnhealthy_iff, hsome]
  have hone : 1 ≤ t.worst.severity ↔
      counted.filter (·.status.isDegraded) ≠ [] ∨ counted.filter (·.status.isUnhealthy) ≠ [] := by
    rw [htells.worst, hsome, hsome]
    simp [Health.one_le_severity, and_or_left, exists_or, counted]
  rw [haggregate]
  generalize hunhealthy : counted.filter (·.status.isUnhealthy) = unhealthy at htwo hone
  generalize hdegraded : counted.filter (·.status.isDegraded) = degraded at hone
  cases hworst : t.worst with
  | healthy =>
    have hnone : degraded = [] ∧ unhealthy = [] := by simpa [hworst, Health.severity] using hone
    simp [hnone]
  | degraded _ =>
    have hnone : unhealthy = [] := by simpa [hworst, Health.severity] using htwo
    have hsome : degraded ≠ [] := by simpa [hworst, hnone, Health.severity] using hone
    rw [if_neg (not_not_intro hnone), if_pos hsome, ← hdegraded]
    exact congrArg (fun ps => Health.degraded (joined ps)) (told_of_working (htells.working (by rw [hworst]; rfl)))
  | unhealthy _ =>
    have hsome : unhealthy ≠ [] := by simpa [hworst, Health.severity] using htwo
    rw [if_pos hsome]

/-- The health of several parts is that of the worst enabled one. They are unhealthy together if an enabled part is; if
    none is, they are degraded if an enabled part is, and healthy otherwise. What is told of degraded parts together is what
    is told of each enabled part that is degraded, in their order; and what is told of unhealthy parts together is what is
    told of each enabled part that is unhealthy and of the degraded ones before the first of these, in their order, so that
    nothing that an unhealthy part says is lost. How bad they are does not depend on their order, and nothing depends on
    the parts that are not enabled. -/
theorem aggregate_worst (parts : List PartHealth) :
    let counted := parts.filter (·.enabled)
    let unhealthy := counted.filter (·.status.isUnhealthy)
    let degraded := counted.filter (·.status.isDegraded)
    let before := (counted.takeWhile fun p => !p.status.isUnhealthy).filter (·.status.isDegraded)
    aggregate parts = (if unhealthy ≠ [] then .unhealthy (joined (before ++ unhealthy))
        else if degraded ≠ [] then .degraded (joined degraded) else .healthy) ∧
      (before ++ unhealthy).Sublist counted ∧
      (∀ p ∈ unhealthy, ∃ s s', aggregate parts = .unhealthy (s ++ p.line ++ s')) ∧
      (∀ others, (others.filter (·.enabled)).Perm counted →
        (aggregate others).severity = (aggregate parts).severity) ∧
      ∀ others, others.filter (·.enabled) = counted → aggregate others = aggregate parts := by
  intro counted unhealthy degraded before
  have hanswer : aggregate parts = if unhealthy ≠ [] then .unhealthy (joined (before ++ unhealthy))
      else if degraded ≠ [] then .degraded (joined degraded) else .healthy := aggregate_eq parts
  refine ⟨hanswer, told_sublist counted, fun p hp => ?_, fun others => severity_congr, fun others hothers => ?_⟩
  · rw [hanswer, if_pos (List.ne_nil_of_mem hp)]
    obtain ⟨s, s', hjoined⟩ := line_in_joined (List.mem_append_right before hp)
    exact ⟨s, s', by rw [hjoined]⟩
  · unfold aggregate
    rw [hothers]

end PartHealth
end FrameSentry
