import Mathlib.Data.List.Forall2
import FrameSentry.Proofs.Engine.Agreement
import FrameSentry.Proofs.Engine.Reachable

/-! The counters of the kernel, as they are read and as packets change them. A poll sums each counter over the
    processors and stops at the greatest word. A packet adds at most one to each counter of its processor, since at most
    one program sees it; so as long as no counter wraps around, what is read never becomes less. -/

namespace FrameSentry

/-! ### What is read -/

namespace Kernel

/-- The values of a counter on all processors, or none if it cannot be read. -/
def values (k : Kernel) (o : Outcome) : List UInt64 :=
  match k.readCounter o with
  | .ok values => values
  | .error _ => []

/-- What a poll of the counters finds. -/
def snapshot (k : Kernel) : Counters := .sumPerCpu (Outcome.all.map k.values)

/-- The number found for each counter: the sum over the processors as far as it is a word, or zero. -/
theorem snapshot_get (k : Kernel) (o : Outcome) : (k.snapshot.get o).toNat =
    if (k.fault? (.readCounter o.index)).isSome then 0
    else min (Counters.countAcross k.maps.counters o) (wordLimit - 1) := by
  unfold snapshot
  rw [Counters.get_sumPerCpu, saturatingSum_toNat]
  unfold values readCounter
  cases k.fault? (.readCounter o.index) with
  | some reason => rfl
  | none =>
    simp only [List.map_map, Option.isSome_none]
    rfl

/-- Only the faults and the counters matter to what is found. -/
theorem snapshot_congr {k k' : Kernel} (hfaults : k'.faults = k.faults)
    (hcounters : k'.maps.counters = k.maps.counters) : k'.snapshot = k.snapshot := by
  unfold snapshot values readCounter fault?
  rw [hfaults, hcounters]

end Kernel

/-! ### What a packet counts -/

namespace Counters

/-- Each counter is as it was or one more, where the greatest word is followed by zero. -/
def Counts (c c' : Counters) : Prop := ∀ o, c'.get o = c.get o ∨ c'.get o = c.get o + 1

/-- A counter that stood at the greatest word has started again from zero. -/
def Wraps (c c' : Counters) : Prop := ∃ o ∈ Outcome.all, (c.get o).toNat = wordLimit - 1 ∧ (c'.get o).toNat = 0

instance (c c' : Counters) : Decidable (c.Wraps c') := inferInstanceAs (Decidable (∃ o ∈ Outcome.all, _))

theorem Counts.refl (c : Counters) : c.Counts c := fun _ => Or.inl rfl

theorem counts_bump (c : Counters) (o : Outcome) : c.Counts (c.bump o) := fun o' => by
  rw [get_bump]
  split
  · exact Or.inr rfl
  · exact Or.inl (UInt64.add_zero _)

/-- Two counters, but neither of them twice. -/
theorem counts_bump_bump (c : Counters) {o₁ o₂ : Outcome} (hne : o₁ ≠ o₂) : c.Counts ((c.bump o₁).bump o₂) := fun o => by
  rw [get_bump, get_bump]
  by_cases h₁ : o₁ = o
  · subst h₁
    rw [if_pos rfl, if_neg (Ne.symm hne), UInt64.add_zero]
    exact Or.inr rfl
  · rw [if_neg h₁, UInt64.add_zero]
    split
    · exact Or.inr rfl
    · exact Or.inl (UInt64.add_zero _)

/-- On no processor a counter becomes less, unless it wraps around. -/
theorem Counts.le {c c' : Counters} (hc : c.Counts c') (hwraps : ¬c.Wraps c') (o : Outcome) :
    (c.get o).toNat ≤ (c'.get o).toNat := by
  have hall : o ∈ Outcome.all := by cases o <;> decide
  rcases hc o with hsame | hmore
  · rw [hsame]
  · have hlt := (c.get o).toNat_lt
    by_cases hfull : (c.get o).toNat = wordLimit - 1
    · refine absurd ⟨o, hall, hfull, ?_⟩ hwraps
      rw [hmore, UInt64.toNat_add, hfull]
      rfl
    · rw [hmore, UInt64.toNat_add]
      unfold wordLimit at hfull
      show _ ≤ ((c.get o).toNat + 1) % 2 ^ 64
      omega

theorem forall₂_modify {l : List Counters} {f : Counters → Counters} (hf : ∀ c : Counters, c.Counts (f c)) (cpu : Nat) :
    List.Forall₂ Counts l (l.modify cpu f) := by
  induction l generalizing cpu with
  | nil => cases cpu <;> exact .nil
  | cons c rest ih =>
    cases cpu with
    | zero => exact .cons (hf c) (List.forall₂_same.mpr fun c _ => .refl c)
    | succ cpu => exact .cons (.refl c) (ih cpu)

/-- So the sums over the processors do not become less either. -/
theorem countAcross_le {l l' : List Counters} (hl : List.Forall₂ Counts l l')
    (hwraps : ∀ p ∈ l.zip l', ¬p.1.Wraps p.2) (o : Outcome) : countAcross l o ≤ countAcross l' o := by
  induction hl with
  | nil => exact Nat.le_refl _
  | @cons c c' rest rest' hc _ ih =>
    rw [List.zip_cons_cons, List.forall_mem_cons] at hwraps
    rw [countAcross_cons, countAcross_cons]
    exact Nat.add_le_add (hc.le hwraps.1 o) (ih hwraps.2)

end Counters

namespace KernelMaps

theorem record_counters (m : KernelMaps) (packet : Frame) (cpu : Nat) : ∃ o, o ≠ .matched ∧
    (m.record packet cpu).counters = m.counters.modify cpu fun c => c.bump o := by
  unfold record
  simp only
  split
  · exact ⟨.reserveFailed, nofun, rfl⟩
  split
  · exact ⟨.copyFailed, nofun, rfl⟩
  · exact ⟨.captured, nofun, rfl⟩

/-- A frame that matches is counted as such, and then by what becomes of its record. -/
theorem observe_counts (m : KernelMaps) (packet : Frame) (cpu : Nat) :
    List.Forall₂ Counters.Counts m.counters (m.observe packet cpu).counters := by
  obtain ⟨log, hjudge⟩ := m.judge_eq packet cpu
  unfold observe
  rw [hjudge]
  cases hmatched : (packet.classification.matched? m.watched).isSome with
  | false => exact Counters.forall₂_modify (fun c => c.counts_bump _) cpu
  | true =>
    rw [Classification.outcome_of_matched hmatched]
    obtain ⟨o, hne, hcounters⟩ := record_counters { m.bump cpu .matched with log } packet cpu
    simp only [hcounters]
    show List.Forall₂ _ _ ((m.counters.modify cpu fun c => c.bump .matched).modify cpu _)
    rw [List.modify_modify_eq]
    exact Counters.forall₂_modify (fun c => c.counts_bump_bump (Ne.symm hne)) cpu

theorem run_counts (m : KernelMaps) (p : Program) (packet : Frame) (cpu : Nat) :
    List.Forall₂ Counters.Counts m.counters (m.run p packet cpu).2.counters := by
  cases p with
  | portFilter =>
    obtain ⟨log, hrun⟩ := m.run_portFilter packet cpu
    rw [hrun]
    exact Counters.forall₂_modify (fun c => c.counts_bump _) cpu
  | tcIngress => exact m.observe_counts packet cpu
  | tcEgress => exact m.observe_counts packet cpu

end KernelMaps

namespace Kernel

/-- Whichever way a packet passes, no more than one program sees it. -/
def Single (k : Kernel) : Prop := ∀ d, (k.links.filter fun l => l.point.sees d).length ≤ 1

theorem single_of_links {k : Kernel} {mode : Mode} {interface : String} (hk : k.links = mode.links interface) :
    k.Single := by
  intro d
  rw [hk]
  cases mode <;> cases d <;> simp [Mode.links, AttachPoint.sees]

theorem runLink_counters (k : Kernel) (packet : Frame) (cpu : Nat) (l : Link) :
    (k.runLink packet cpu l).2.maps.counters = (k.maps.run l.program packet cpu).2.counters := by
  unfold runLink
  simp only
  split
  · split <;> rfl
  · rfl

theorem inject_counts {k : Kernel} (hk : k.Single) (packet : Frame) (d : Direction) (cpu : Nat) :
    List.Forall₂ Counters.Counts k.maps.counters (k.inject packet d cpu).2.maps.counters := by
  have hlinks := hk d
  unfold inject
  generalize (k.links.filter fun l => l.point.sees d) = links at hlinks
  rcases links with _ | ⟨l, _ | ⟨l', rest⟩⟩
  · exact List.forall₂_same.mpr fun c _ => .refl c
  · show List.Forall₂ _ _ (k.runLink packet cpu l).2.maps.counters
    rw [runLink_counters]
    exact k.maps.run_counts l.program packet cpu
  · simp at hlinks

end Kernel
end FrameSentry
