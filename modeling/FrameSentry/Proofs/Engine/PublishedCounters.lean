import Mathlib.Order.Basic
import FrameSentry.Proofs.Engine.Polling

/-! What an operator learns of the kernel's counters while an engine runs. Frames, calls of the hooks, the consumer and
    the clock follow one another in any order, up to the next stop. The engine polls at the beginning and then once in so
    many seconds, and an overdue poll finds what the kernel has counted when it is made up. So the polls are told by the
    moments at which the engine settled; what they found was published and the last of it is shown. As long as no counter
    wraps around, none of this is ever less than before where the counter can be read, or more than the kernel has
    counted. -/

namespace FrameSentry
namespace Machine
variable {m m' m'' : Machine} {l l' : List Machine} {interval wake : Nat} {h : Host} {s : MachineStep}

/-! ### When it is polled -/

/-- The machines that settle in a step, as they are when they begin to. -/
def settledIn (m : Machine) : MachineStep → List Machine
  | .settle => [m]
  | .tick seconds => [m, m.settle.pass seconds]
  | _ => []

/-- All that settle in a run, one after the other. -/
def settlings (h : Host) : Machine → List MachineStep → List Machine
  | _, [] => []
  | m, s :: rest => m.settledIn s ++ settlings h (m.step h s).2 rest

/-- The machines at which polls are made, where these settle and the first poll is due at `wake`. -/
def polledAt (interval : Nat) : Nat → List Machine → List Machine
  | _, [] => []
  | wake, x :: rest =>
    List.replicate (pollsDue interval wake x.clock).1 x ++ polledAt interval (pollsDue interval wake x.clock).2 rest

/-- When the first poll after these is due. -/
def dueAfter (interval wake : Nat) (l : List Machine) : Nat :=
  l.foldl (fun wake x => (pollsDue interval wake x.clock).2) wake

theorem polledAt_append (interval wake : Nat) (l l' : List Machine) : polledAt interval wake (l ++ l') =
    polledAt interval wake l ++ polledAt interval (dueAfter interval wake l) l' := by
  induction l generalizing wake with
  | nil => rfl
  | cons x rest ih =>
    simp only [List.cons_append, polledAt, ih, List.append_assoc]
    rfl

theorem mem_polledAt {x : Machine} (hx : x ∈ polledAt interval wake l) : x ∈ l := by
  induction l generalizing wake with
  | nil => exact hx
  | cons y rest ih =>
    rcases List.mem_append.mp hx with hx | hx
    · exact List.mem_cons.mpr (Or.inl (List.eq_of_mem_replicate hx))
    · exact List.mem_cons_of_mem _ (ih hx)

theorem pollsDue_snd (interval wake clock : Nat) :
    (pollsDue interval wake clock).2 = wake + (pollsDue interval wake clock).1 * interval := by
  unfold pollsDue
  split
  · simp
  · rfl

theorem lt_pollsDue (hinterval : 0 < interval) (wake clock k : Nat) :
    k < (pollsDue interval wake clock).1 ↔ wake + k * interval ≤ clock := by
  unfold pollsDue
  split
  · rename_i hearly
    constructor
    · exact nofun
    · intro hle
      omega
  · rename_i hdue
    rw [Nat.lt_succ_iff, Nat.le_div_iff_mul_le hinterval]
    omega

/-- Each poll is made when the engine first settles from the moment on at which it is due. -/
theorem getElem?_polledAt (hinterval : 0 < interval) (wake : Nat) (l : List Machine) (k : Nat) :
    (polledAt interval wake l)[k]? = l.find? fun x => wake + k * interval ≤ x.clock := by
  induction l generalizing wake k with
  | nil => rfl
  | cons x rest ih =>
    have hdue := lt_pollsDue hinterval wake x.clock k
    unfold polledAt
    by_cases hk : k < (pollsDue interval wake x.clock).1
    · rw [List.getElem?_append_left (by simpa using hk), List.getElem?_replicate_of_lt hk,
        List.find?_cons_of_pos (by simpa using hdue.mp hk)]
    · have hlater : (pollsDue interval wake x.clock).2 + (k - (pollsDue interval wake x.clock).1) * interval =
          wake + k * interval := by
        rw [pollsDue_snd, Nat.add_assoc, ← Nat.add_mul, Nat.add_sub_cancel' (Nat.le_of_not_lt hk)]
      rw [List.getElem?_append_right (by simpa using hk), List.length_replicate, ih, hlater,
        List.find?_cons_of_neg (by simpa using mt hdue.mpr hk)]

/-! ### What a step does -/

/-- Nothing is published, and besides what packets count all that matters to polls is as it was. -/
structure Aside (m m' : Machine) : Prop where
  publishes : m.Publishes [] m'
  tasks : m'.engine.tasks = m.engine.tasks
  running : m'.engine.running = m.engine.running
  clock : m'.clock = m.clock
  links : m'.kernel.links = m.kernel.links
  counts : m.kernel.Single → List.Forall₂ Counters.Counts m.kernel.maps.counters m'.kernel.maps.counters

theorem Aside.refl (m : Machine) : m.Aside m :=
  ⟨.refl m, rfl, rfl, rfl, rfl, fun _ => List.forall₂_same.mpr fun c _ => .refl c⟩

theorem onSession_aside (m : Machine) (s : SessionStep) : m.Aside (m.onSession s).2 := by
  have hreported := Session.step_reported m.engine.hookSettings m.engine.session s
  exact ⟨.none hreported.ofKernel rfl, rfl, rfl, rfl, rfl, fun _ => List.forall₂_same.mpr fun c _ => .refl c⟩

theorem inject_aside (m : Machine) (h : Host) (packet : Frame) (d : Direction) (cpu : Nat) :
    m.Aside (m.step h (.inject packet d cpu)).2 := by
  obtain ⟨maps, inbox, hkernel⟩ := m.kernel.inject_eq packet d cpu
  have hlinks : (m.kernel.inject packet d cpu).2.links = m.kernel.links := by rw [hkernel]
  exact ⟨.none rfl rfl, rfl, rfl, rfl, hlinks, fun hsingle => Kernel.inject_counts hsingle packet d cpu⟩

/-- Nor does it matter to polls what is left of the kernel when its counters and links are. -/
theorem kernel_aside (m : Machine) {k : Kernel} (hlinks : k.links = m.kernel.links)
    (hcounters : k.maps.counters = m.kernel.maps.counters) : m.Aside { m with kernel := k } :=
  ⟨.none rfl rfl, rfl, rfl, rfl, hlinks, fun _ => hcounters ▸ List.forall₂_same.mpr fun c _ => .refl c⟩

/-- While an engine runs and is not stopped, it settles or a step happens aside from the polls. -/
theorem step_cases (hrunning : m.engine.running = true) (h : Host) (hs : s ≠ .stop) :
    (m.settledIn s = [] ∧ m.Aside (m.step h s).2) ∨ (m.settledIn s = [m] ∧ (m.step h s).2 = m.settle) ∨
      ∃ seconds, m.settledIn s = [m, m.settle.pass seconds] ∧ (m.step h s).2 = (m.settle.pass seconds).settle := by
  cases s with
  | start =>
    have hsame : (m.step h .start).2 = m := congrArg Prod.snd (start_of_running hrunning h)
    rw [hsame]
    exact Or.inl ⟨rfl, .refl m⟩
  | stop => exact absurd rfl hs
  | health => exact Or.inl ⟨rfl, .refl m⟩
  | hook frame => exact Or.inl ⟨rfl, m.onSession_aside _⟩
  | onFrame frame => exact Or.inl ⟨rfl, m.onSession_aside _⟩
  | enforce frame => exact Or.inl ⟨rfl, m.onSession_aside _⟩
  | consume s => exact Or.inl ⟨rfl, m.onSession_aside _⟩
  | inject packet d cpu => exact Or.inl ⟨rfl, m.inject_aside h packet d cpu⟩
  | sample bytes => exact Or.inl ⟨rfl, m.kernel_aside rfl rfl⟩
  | disturb c reason => exact Or.inl ⟨rfl, m.kernel_aside rfl rfl⟩
  | failSocket load reason => exact Or.inl ⟨rfl, m.kernel_aside rfl rfl⟩
  | settle => exact Or.inr (Or.inl ⟨rfl, rfl⟩)
  | tick seconds => exact Or.inr (Or.inr ⟨seconds, rfl, rfl⟩)

/-- The engine runs, and polls from `wake` on. -/
structure Polling (m : Machine) (interval wake : Nat) : Prop where
  running : m.engine.running = true
  single : m.kernel.Single
  due : m.Due interval wake

namespace Polling

theorem settle (hm : m.Polling interval wake) :
    m.Publishes ((polledAt interval wake [m]).map (·.kernel.snapshot)) m.settle ∧
      m.settle.Polling interval (dueAfter interval wake [m]) ∧
      m.settle.Poller interval (.waiting (dueAfter interval wake [m])) := by
  obtain ⟨-, hrunning, -, hlinks, -⟩ := (Settles.settle m).kept
  obtain ⟨hpublishes, hpoller⟩ := settle_publishes hm.due
  have hsingle : m.settle.kernel.Single := fun d => by
    rw [hlinks]
    exact hm.single d
  refine ⟨?_, ⟨hrunning.trans hm.running, hsingle, _, hpoller, Or.inl rfl⟩, hpoller⟩
  rw [polledAt, polledAt, List.append_nil, List.map_replicate]
  exact hpublishes

/-- What a step publishes is what the polls found that it made. -/
theorem step (hm : m.Polling interval wake) (h : Host) (hs : s ≠ .stop) :
    m.Publishes ((polledAt interval wake (m.settledIn s)).map (·.kernel.snapshot)) (m.step h s).2 ∧
      (m.step h s).2.Polling interval (dueAfter interval wake (m.settledIn s)) := by
  rcases step_cases hm.running h hs with ⟨hnone, haside⟩ | ⟨hone, hstep⟩ | ⟨seconds, htwo, hstep⟩
  · rw [hnone]
    obtain ⟨phase, ⟨front, owned, htasks, hfront⟩, hphase⟩ := hm.due
    refine ⟨haside.publishes, haside.running.trans hm.running, fun d => ?_, phase,
      ⟨front, owned, haside.tasks.trans htasks, hfront⟩, ?_⟩
    · rw [haside.links]
      exact hm.single d
    · rw [haside.clock]
      exact hphase
  · rw [hone, hstep]
    obtain ⟨hpublishes, hnext, -⟩ := hm.settle
    exact ⟨hpublishes, hnext⟩
  · rw [htwo, hstep]
    obtain ⟨hfirst, hsettled, hpoller⟩ := hm.settle
    -- The poller waits already, so the time that passes does not change when it polls next.
    have hpassed : (m.settle.pass seconds).Polling interval (dueAfter interval wake [m]) :=
      ⟨hsettled.running, hsettled.single, _, hpoller, Or.inl rfl⟩
    obtain ⟨hsecond, hnext, -⟩ := hpassed.settle
    have hpass : m.settle.Publishes [] (m.settle.pass seconds) := .none rfl rfl
    refine ⟨?_, hnext⟩
    rw [show [m, m.settle.pass seconds] = [m] ++ [m.settle.pass seconds] from rfl, polledAt_append, List.map_append]
    exact hfirst.trans (hpass.trans hsecond)

/-- What a run publishes is what all its polls found, one after the other. -/
theorem perform (hm : m.Polling interval wake) (h : Host) {steps : List MachineStep} (hsteps : .stop ∉ steps) :
    m.Publishes ((polledAt interval wake (m.settlings h steps)).map (·.kernel.snapshot)) (m.perform h steps) := by
  induction steps generalizing m wake with
  | nil => exact .refl m
  | cons s rest ih =>
    rw [List.mem_cons, not_or] at hsteps
    obtain ⟨hpublishes, hnext⟩ := hm.step h (Ne.symm hsteps.1)
    rw [settlings, polledAt_append, List.map_append]
    exact hpublishes.trans (ih hnext hsteps.2)

end Polling

/-! ### The time that passes -/

/-- From one machine to another time passes only between the settlings: not before the first, and not after the
    last. -/
structure Clocked (m : Machine) (l : List Machine) (m' : Machine) : Prop where
  le : m.clock ≤ m'.clock
  first : ∀ x, l.head? = some x → x.clock = m.clock
  last : l ≠ [] → ∃ x ∈ l, x.clock = m'.clock
  none : l = [] → m'.clock = m.clock
  mem : ∀ x ∈ l, x.clock ≤ m'.clock

theorem Clocked.still (h : m'.clock = m.clock) : m.Clocked [] m' where
  le := le_of_eq h.symm
  first := by simp
  last := by simp
  none _ := h
  mem := by simp

theorem Clocked.append (h₁ : m.Clocked l m') (h₂ : m'.Clocked l' m'') : m.Clocked (l ++ l') m'' := by
  refine ⟨h₁.le.trans h₂.le, fun x hx => ?_, fun hne => ?_, fun hnil => ?_, fun x hx => ?_⟩
  · cases l with
    | nil => exact (h₂.first x hx).trans (h₁.none rfl)
    | cons y rest => exact h₁.first x hx
  · by_cases hl' : l' = []
    · obtain ⟨x, hx, hclock⟩ := h₁.last (by simpa [hl'] using hne)
      exact ⟨x, List.mem_append_left _ hx, hclock.trans (h₂.none hl').symm⟩
    · obtain ⟨x, hx, hclock⟩ := h₂.last hl'
      exact ⟨x, List.mem_append_right _ hx, hclock⟩
  · obtain ⟨hl, hl'⟩ := List.append_eq_nil_iff.mp hnil
    exact (h₂.none hl').trans (h₁.none hl)
  · rcases List.mem_append.mp hx with hx | hx
    · exact (h₁.mem x hx).trans h₂.le
    · exact h₂.mem x hx

theorem step_clocked (hrunning : m.engine.running = true) (h : Host) (hs : s ≠ .stop) :
    m.Clocked (m.settledIn s) (m.step h s).2 := by
  rcases step_cases hrunning h hs with ⟨hnone, haside⟩ | ⟨hone, hstep⟩ | ⟨seconds, htwo, hstep⟩
  · rw [hnone]
    exact .still haside.clock
  · rw [hone, hstep]
    obtain ⟨hclock, -⟩ := (Settles.settle m).kept
    refine ⟨le_of_eq hclock.symm, fun x hx => congrArg clock (Option.some.inj hx).symm,
      fun _ => ⟨m, List.mem_cons_self, hclock.symm⟩, fun hnil => absurd hnil (List.cons_ne_nil _ _), fun x hx => ?_⟩
    rw [List.mem_singleton.mp hx, hclock]
  · rw [htwo, hstep]
    obtain ⟨hclock, -⟩ := (Settles.settle m).kept
    obtain ⟨hclock', -⟩ := (Settles.settle (m.settle.pass seconds)).kept
    have hpassed : (m.settle.pass seconds).settle.clock = m.clock + seconds := by
      rw [hclock', ← hclock]
      rfl
    refine ⟨by omega, fun x hx => congrArg clock (Option.some.inj hx).symm,
      fun _ => ⟨_, List.mem_cons_of_mem _ List.mem_cons_self, hclock'.symm⟩,
      fun hnil => absurd hnil (List.cons_ne_nil _ _), fun x hx => ?_⟩
    rcases List.mem_cons.mp hx with rfl | hx
    · omega
    · rw [List.mem_singleton.mp hx, hclock']

theorem Polling.clocked (hm : m.Polling interval wake) (h : Host) {steps : List MachineStep} (hsteps : .stop ∉ steps) :
    m.Clocked (m.settlings h steps) (m.perform h steps) := by
  induction steps generalizing m wake with
  | nil => exact .still rfl
  | cons s rest ih =>
    rw [List.mem_cons, not_or] at hsteps
    obtain ⟨-, hnext⟩ := hm.step h (Ne.symm hsteps.1)
    exact (step_clocked hm.running h (Ne.symm hsteps.1)).append (ih hnext hsteps.2)

/-- The first poll is made when the engine first settles, and from then on there is one in so many seconds. -/
theorem Clocked.length_polledAt (hl : m.Clocked l m') (hinterval : 0 < interval) :
    (polledAt interval m.clock l).length = if l = [] then 0 else 1 + (m'.clock - m.clock) / interval := by
  split
  · rename_i hnil
    rw [hnil]
    rfl
  · rename_i hne
    refine eq_of_forall_ge_iff fun k => ?_
    have hpolled : (polledAt interval m.clock l).length ≤ k ↔ m'.clock < m.clock + k * interval := by
      rw [← List.getElem?_eq_none_iff, getElem?_polledAt hinterval, List.find?_eq_none]
      constructor
      · intro hnone
        obtain ⟨x, hx, hclock⟩ := hl.last hne
        have hearly := hnone x hx
        rw [decide_eq_true_iff, hclock] at hearly
        exact Nat.lt_of_not_le hearly
      · intro hlt x hx
        rw [decide_eq_true_iff]
        exact Nat.not_le_of_lt ((hl.mem x hx).trans_lt hlt)
    have hle := hl.le
    rw [hpolled, Nat.add_comm 1, Nat.succ_le_iff, Nat.div_lt_iff_lt_mul hinterval]
    omega

/-! ### The counters that rise -/

/-- No counter of the kernel becomes less. -/
def Rises (m m' : Machine) : Prop :=
  ∀ o, Counters.countAcross m.kernel.maps.counters o ≤ Counters.countAcross m'.kernel.maps.counters o

theorem Rises.refl (m : Machine) : m.Rises m := fun _ => le_refl _

theorem Rises.trans (h₁ : m.Rises m') (h₂ : m'.Rises m'') : m.Rises m'' := fun o => (h₁ o).trans (h₂ o)

theorem Rises.settle (m : Machine) : m.Rises m.settle := by
  obtain ⟨-, -, -, -, hcounters⟩ := (Settles.settle m).kept
  exact fun o => le_of_eq (by rw [hcounters])

/-- A poll that is made later finds no less, unless it cannot read the counter. -/
theorem Rises.snapshot (hm : m.Rises m') {o : Outcome} (hread : m'.kernel.fault? (.readCounter o.index) = none) :
    m.kernel.snapshot.get o ≤ m'.kernel.snapshot.get o := by
  have hcounters := hm o
  rw [UInt64.le_iff_toNat_le, Kernel.snapshot_get, Kernel.snapshot_get, hread]
  split
  · exact Nat.zero_le _
  · simp only [Option.isSome_none, Bool.false_eq_true, if_false]
    omega

theorem Rises.of_pairwise {k k' : Nat} (hl : l.Pairwise Rises) (hk : k ≤ k') (hm : l[k]? = some m)
    (hm' : l[k']? = some m') : m.Rises m' := by
  rcases Nat.lt_or_eq_of_le hk with hlt | rfl
  · obtain ⟨hlength, rfl⟩ := List.getElem?_eq_some_iff.mp hm
    obtain ⟨hlength', rfl⟩ := List.getElem?_eq_some_iff.mp hm'
    exact List.pairwise_iff_getElem.mp hl k k' hlength hlength' hlt
  · cases hm.symm.trans hm'
    exact .refl m

theorem snapshot_le (m : Machine) (o : Outcome) :
    (m.kernel.snapshot.get o).toNat ≤ Counters.countAcross m.kernel.maps.counters o := by
  rw [Kernel.snapshot_get]
  split
  · exact Nat.zero_le _
  · exact Nat.min_le_left _ _

/-- From one machine over these to another no counter of the kernel becomes less. -/
structure Climbs (m : Machine) (l : List Machine) (m' : Machine) : Prop where
  rises : m.Rises m'
  mem : ∀ x ∈ l, m.Rises x ∧ x.Rises m'
  pairwise : l.Pairwise Rises

theorem Climbs.of_rises (h : m.Rises m') : m.Climbs [] m' where
  rises := h
  mem := by simp
  pairwise := .nil

theorem Climbs.settle (m : Machine) : m.Climbs [m] m.settle where
  rises := .settle m
  mem x hx := by
    rw [List.mem_singleton.mp hx]
    exact ⟨.refl m, .settle m⟩
  pairwise := List.pairwise_singleton _ _

theorem Climbs.append (h₁ : m.Climbs l m') (h₂ : m'.Climbs l' m'') : m.Climbs (l ++ l') m'' := by
  refine ⟨h₁.rises.trans h₂.rises, fun x hx => ?_, ?_⟩
  · rcases List.mem_append.mp hx with hx | hx
    · exact ⟨(h₁.mem x hx).1, (h₁.mem x hx).2.trans h₂.rises⟩
    · exact ⟨h₁.rises.trans (h₂.mem x hx).1, (h₂.mem x hx).2⟩
  · exact List.pairwise_append.mpr ⟨h₁.pairwise, h₂.pairwise,
      fun x hx y hy => (h₁.mem x hx).2.trans (h₂.mem y hy).1⟩

/-- In no step of a run a counter of the kernel wraps around, on any processor. -/
def Unwrapped (h : Host) : Machine → List MachineStep → Prop
  | _, [] => True
  | m, s :: rest =>
    (∀ p ∈ m.kernel.maps.counters.zip (m.step h s).2.kernel.maps.counters, ¬p.1.Wraps p.2) ∧
      Unwrapped h (m.step h s).2 rest

theorem step_climbs (hrunning : m.engine.running = true) (hsingle : m.kernel.Single) (h : Host) (hs : s ≠ .stop)
    (hwraps : ∀ p ∈ m.kernel.maps.counters.zip (m.step h s).2.kernel.maps.counters, ¬p.1.Wraps p.2) :
    m.Climbs (m.settledIn s) (m.step h s).2 := by
  rcases step_cases hrunning h hs with ⟨hnone, haside⟩ | ⟨hone, hstep⟩ | ⟨seconds, htwo, hstep⟩
  · rw [hnone]
    exact .of_rises (Counters.countAcross_le (haside.counts hsingle) hwraps)
  · rw [hone, hstep]
    exact .settle m
  · rw [htwo, hstep]
    have hpass : m.settle.Rises (m.settle.pass seconds) := .refl m.settle
    exact (Climbs.settle m).append ((Climbs.of_rises hpass).append (.settle _))

theorem Polling.climbs (hm : m.Polling interval wake) (h : Host) {steps : List MachineStep} (hsteps : .stop ∉ steps)
    (hwraps : m.Unwrapped h steps) : m.Climbs (m.settlings h steps) (m.perform h steps) := by
  induction steps generalizing m wake with
  | nil => exact .of_rises (.refl m)
  | cons s rest ih =>
    rw [List.mem_cons, not_or] at hsteps
    obtain ⟨-, hnext⟩ := hm.step h (Ne.symm hsteps.1)
    exact (step_climbs hm.running hm.single h (Ne.symm hsteps.1) hwraps.1).append (ih hnext hsteps.2 hwraps.2)

/-- So of several polls each finds no less than those before. -/
theorem Climbs.pairwise_polledAt (hl : l.Pairwise Rises) (interval wake : Nat) :
    (polledAt interval wake l).Pairwise Rises := by
  induction l generalizing wake with
  | nil => exact .nil
  | cons x rest ih =>
    obtain ⟨hx, hrest⟩ := List.pairwise_cons.mp hl
    refine List.pairwise_append.mpr ⟨List.pairwise_replicate.mpr (Or.inr (.refl x)), ih hrest _, fun y hy z hz => ?_⟩
    rw [List.eq_of_mem_replicate hy]
    exact hx z (mem_polledAt hz)

/-! ### From the start on -/

/-- An engine that has just started polls when it settles for the first time. -/
theorem Reachable.polling {m₁ : Machine} (hm : m.Reachable) (hs : m.start h = (.ok (), m₁)) :
    m₁.Polling (max m.engine.settings.base.statsInterval 1) m₁.clock ∧ m₁.engine.polled = some .zero := by
  obtain ⟨hrunning, o, w, r, -, -, -, events, t, rfl⟩ := start_ok hs
  have hidle := hm.tidy.idle hrunning
  -- Whatever earlier starts left reads.
  have hreader : ∀ u ∈ m.engine.tasks ++ [⟨m.nextReader, .fresh, true⟩], ∀ n, u.job ≠ .pollCounters n := by
    intro u hu n hjob
    obtain ⟨load, hreads⟩ : ∃ load, u.job = m.engine.mode.reader load := by
      rcases List.mem_append.mp hu with hu | hu
      · obtain ⟨load, -, hreads⟩ := hm.tidy.readers u hu (hidle.owned u hu)
        exact ⟨load, hreads⟩
      · rw [List.mem_singleton.mp hu]
        exact ⟨_, rfl⟩
    exact reader_ne_poller _ _ _ (hreads.symm.trans hjob)
  refine ⟨⟨rfl, Kernel.single_of_links rfl, .fresh, ⟨_, true, ?_, hreader⟩, Or.inr ⟨rfl, rfl⟩⟩, rfl⟩
  rw [launched_tasks, List.append_assoc]
  rfl

/-- What an engine tells of the kernel's counters after any start that succeeds, whatever its interval, over any frames
    on any processors, passing time and all else up to the next stop. From the first settling on it makes one poll at
    once and one more in each interval, and each is made when the engine first settles after it is due. A poll finds for
    each counter the sum over the processors as it is then, as far as it is a word, and zero where the counter cannot be
    read. The last poll is what the engine shows, and zeros before the first. Each poll is published, every counter
    under its own label and nothing else. As long as no counter wraps around, no poll finds less than one before it, unless
    it cannot read the counter, and none has found more than the kernel has counted in the end. -/
theorem polls_publish_counters {m₁ : Machine} (hm : m.Reachable) (hs : m.start h = (.ok (), m₁)) (h' : Host)
    {steps : List MachineStep} (hsteps : .stop ∉ steps) :
    let interval := max m.engine.settings.base.statsInterval 1
    let settlings := m₁.settlings h' steps
    let after := m₁.perform h' steps
    let polled (k : Nat) := settlings.find? fun x => m₁.clock + k * interval ≤ x.clock
    ∃ snapshots : List Counters,
      (snapshots.length = match settlings.head? with
        | none => 0
        | some first => 1 + (after.clock - first.clock) / interval) ∧
      (∀ k c, snapshots[k]? = some c →
        ∃ x, polled k = some x ∧ ∀ o, (c.get o).toNat =
          if (x.kernel.fault? (.readCounter o.index)).isSome then 0
          else min (Counters.countAcross x.kernel.maps.counters o) (wordLimit - 1)) ∧
      after.engine.polled = some (snapshots.getLastD .zero) ∧
      after.telemetry.ofKernel = m₁.telemetry.ofKernel ++ snapshots.flatMap (fun c =>
        [("truncated", c.truncated), ("unsupported_link_type", c.unsupportedLinkType),
          ("unsupported_transport", c.unsupportedTransport), ("no_match", c.noMatch), ("matched", c.matched),
          ("captured", c.captured), ("reserve_failed", c.reserveFailed), ("copy_failed", c.copyFailed)].map
          fun (label, n) => ⟨"portwatch_kernel_frames_total", [("outcome", label)], .absolute n⟩) ∧
      (m₁.Unwrapped h' steps →
        (∀ k k' c c', k ≤ k' → snapshots[k]? = some c → snapshots[k']? = some c' → ∀ o,
          (∀ x, polled k' = some x → x.kernel.fault? (.readCounter o.index) = none) → c.get o ≤ c'.get o) ∧
          ∀ c ∈ snapshots, ∀ o, (c.get o).toNat ≤ Counters.countAcross after.kernel.maps.counters o) := by
  intro interval settlings after polled
  obtain ⟨hpolling, hzero⟩ := hm.polling hs
  have hinterval : 0 < interval := by omega
  have hclocked := hpolling.clocked h' hsteps
  have hpublishes := hpolling.perform h' hsteps
  have hpolled : ∀ k, (polledAt interval m₁.clock settlings)[k]? = polled k :=
    getElem?_polledAt hinterval m₁.clock settlings
  refine ⟨(polledAt interval m₁.clock settlings).map (·.kernel.snapshot), ?_, ?_, ?_, ?_, ?_⟩
  · rw [List.length_map, hclocked.length_polledAt hinterval]
    cases hfirst : settlings.head? with
    | none => rw [if_pos (List.head?_eq_none_iff.mp hfirst)]
    | some first =>
      have hne : settlings ≠ [] := List.ne_nil_of_mem (List.mem_of_mem_head? hfirst)
      show _ = 1 + (after.clock - first.clock) / interval
      rw [if_neg hne, hclocked.first first hfirst]
  · intro k c hc
    rw [List.getElem?_map, Option.map_eq_some_iff] at hc
    obtain ⟨x, hx, rfl⟩ := hc
    rw [hpolled] at hx
    exact ⟨x, hx, x.kernel.snapshot_get⟩
  · rw [hpublishes.polled, hzero, List.getLastD_eq_getLast?]
    cases List.getLast? _ <;> rfl
  · exact hpublishes.published
  · intro hwraps
    have hclimbs := hpolling.climbs h' hsteps hwraps
    have hpairwise := Climbs.pairwise_polledAt hclimbs.pairwise interval m₁.clock
    refine ⟨fun k k' c c' hk hc hc' o hread => ?_, fun c hc o => ?_⟩
    · rw [List.getElem?_map, Option.map_eq_some_iff] at hc hc'
      obtain ⟨x, hx, rfl⟩ := hc
      obtain ⟨x', hx', rfl⟩ := hc'
      exact (Rises.of_pairwise hpairwise hk hx hx').snapshot (hread x' ((hpolled k').symm.trans hx'))
    · obtain ⟨x, hx, rfl⟩ := List.mem_map.mp hc
      exact (x.snapshot_le o).trans ((hclimbs.mem x (mem_polledAt hx)).2 o)

/-- One frame comes before the engine first settles and another before three seconds pass. In between a poll cannot read
    how many frames matched, and finds none; the last of the five polls finds both, and all others find no less than
    those before. -/
theorem polls_publish_counters_datagrams :
    let host := Host.holding .standard
    let m₁ := ((Machine.create (.standard .enforce)).start host).2
    let steps := [.inject .datagram .ingress 3, .settle, .disturb (.readCounter Outcome.matched.index) (some "EIO"),
      .tick 1, .disturb (.readCounter Outcome.matched.index) none, .inject .datagram .egress 0, .tick 3]
    .stop ∉ steps ∧ m₁.Unwrapped host steps ∧
      ∃ snapshots : List Counters, snapshots.length = 5 ∧ (snapshots.getLastD .zero).matched = 2 ∧
        (m₁.perform host steps).engine.polled = some (snapshots.getLastD .zero) ∧
        snapshots[1]?.map (·.matched) = some 0 ∧
        ∀ k k' c c', k ≤ k' → k' ≠ 1 → snapshots[k]? = some c → snapshots[k']? = some c' → ∀ o, c.get o ≤ c'.get o := by
  intro host m₁ steps
  have hm : (Machine.create (.standard .enforce)).Reachable := .built (Engine.build_standard .enforce)
  have hs : (Machine.create (.standard .enforce)).start host = (.ok (), m₁) := start_standard_eq .enforce
  have hsteps : .stop ∉ steps := by decide
  have hwraps : m₁.Unwrapped host steps :=
    ⟨by decide, by decide, by decide, by decide, by decide, by decide, by decide, trivial⟩
  obtain ⟨snapshots, hlength, hfound, hshown, -, hrises⟩ := polls_publish_counters hm hs host hsteps
  have hlength : snapshots.length = 5 := hlength.trans (by decide)
  have hmatched : (m₁.perform host steps).engine.polled.map (·.matched) = some 2 := by decide
  rw [hshown] at hmatched
  have hfaults : ∀ {found : Option Machine} {x : Machine} {faults : List (KernelCall × String)}, found = some x →
      found.map (·.kernel.faults) = some faults → x.kernel.faults = faults := by
    rintro _ x faults rfl h
    exact Option.some.inj h
  have hfault : ((m₁.settlings host steps).find? fun x => m₁.clock + 1 * 1 ≤ x.clock).map (·.kernel.faults) =
      some [(.readCounter Outcome.matched.index, "EIO")] := by decide
  have hnone : ∀ k < 5, k ≠ 1 → ((m₁.settlings host steps).find? fun x => m₁.clock + k * 1 ≤ x.clock).map
      (·.kernel.faults) = some [] := by decide
  refine ⟨hsteps, hwraps, snapshots, hlength, Option.some.inj hmatched, hshown, ?_, ?_⟩
  · obtain ⟨c, hc⟩ : ∃ c, snapshots[1]? = some c := ⟨_, List.getElem?_eq_getElem (by omega)⟩
    obtain ⟨x, hx, hvalues⟩ := hfound 1 c hc
    have hfails : (x.kernel.fault? (.readCounter Outcome.matched.index)).isSome = true := by
      rw [Kernel.fault?, hfaults hx hfault]
      rfl
    have hzero := hvalues .matched
    rw [if_pos hfails] at hzero
    rw [hc]
    exact congrArg some (UInt64.toNat.inj hzero)
  · intro k k' c c' hk hk' hc hc' o
    refine (hrises hwraps).1 k k' c c' hk hc hc' o fun x hx => ?_
    have hlt : k' < 5 := hlength ▸ (List.getElem?_eq_some_iff.mp hc').1
    rw [Kernel.fault?, hfaults hx (hnone k' hlt hk')]
    rfl

end Machine
end FrameSentry
