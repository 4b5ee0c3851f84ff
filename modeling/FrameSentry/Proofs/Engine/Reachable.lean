import FrameSentry.Engine.Run
import FrameSentry.Proofs.Engine.Setup
import FrameSentry.Proofs.Engine.Turns

/-! The machines that can be reached: an engine is built, and then anything is done to it, in any order and on any
    host. While the engine does not run no object is loaded, no program is linked and no counters are shown; the
    tasks that are left are readers of earlier loads that nobody owns. -/

namespace FrameSentry

namespace Kernel

theorem runLink_eq (k : Kernel) (packet : Frame) (cpu : Nat) (l : Link) :
    ∃ maps inbox, (k.runLink packet cpu l).2 = { k with maps, inbox } := by
  unfold runLink
  simp only
  split
  · split
    · exact ⟨_, k.inbox, rfl⟩
    · exact ⟨_, _, rfl⟩
  · exact ⟨_, k.inbox, rfl⟩

theorem runLinks_eq (links : List Link) (k : Kernel) (packet : Frame) (cpu : Nat) :
    ∃ maps inbox, (runLinks packet cpu links k).2 = { k with maps, inbox } := by
  induction links generalizing k with
  | nil => exact ⟨k.maps, k.inbox, rfl⟩
  | cons l rest ih =>
    obtain ⟨maps, inbox, hlink⟩ := k.runLink_eq packet cpu l
    obtain ⟨maps', inbox', hrest⟩ := ih { k with maps, inbox }
    rw [← hlink] at hrest
    exact ⟨maps', inbox', hrest.trans (by rw [hlink])⟩

/-- Packets change only the maps and what waits at the socket. -/
theorem inject_eq (k : Kernel) (packet : Frame) (d : Direction) (cpu : Nat) :
    ∃ maps inbox, (k.inject packet d cpu).2 = { k with maps, inbox } :=
  runLinks_eq _ k packet cpu

end Kernel

/-- What is built does not run yet. -/
theorem Engine.build_ok {settings : Option EngineSettings} {capacity : Option Nat} {sink : Sink} {e : Engine}
    (hb : build settings capacity sink = .ok e) : e.running = false ∧ e.tasks = [] ∧ e.polled = none := by
  unfold build at hb
  cases settings with
  | none => cases hb
  | some s =>
    simp only [bind, Except.bind] at hb
    split at hb
    · cases hb
    split at hb
    · cases hb
    split at hb <;> cases hb
    exact ⟨rfl, rfl, rfl⟩

/-- Unless another capacity is given, the queue is as large as the settings say. -/
theorem Engine.build_session {settings : EngineSettings} {sink : Sink} {e : Engine}
    (hb : build (some settings) none sink = .ok e) : e.session = .create settings.capture.ringBufferSize := by
  unfold build at hb
  simp only [bind, Except.bind] at hb
  split at hb
  · cases hb
  split at hb
  · cases hb
  split at hb <;> cases hb
  rfl

namespace Machine

/-- The machine after some steps. -/
def perform (h : Host) (m : Machine) (steps : List MachineStep) : Machine :=
  steps.foldl (fun m s => (m.step h s).2) m

/-- A machine that an engine was built for, after any steps. -/
inductive Reachable : Machine → Prop
  | built {settings : Option EngineSettings} {capacity : Option Nat} {sink : Sink} {engine : Engine}
      (hb : Engine.build settings capacity sink = .ok engine) : Reachable (.create engine)
  | step {m : Machine} (hm : m.Reachable) (h : Host) (s : MachineStep) : Reachable (m.step h s).2

/-- Nothing of an engine runs but tasks that nobody owns. -/
structure Idle (m : Machine) : Prop where
  polled : m.engine.polled = none
  loaded : m.kernel.loaded = false
  links : m.kernel.links = []
  owned : ∀ t ∈ m.engine.tasks, t.owned = false

/-- An engine that does not run is idle, and a task that nobody owns is the reader of the engine's mode for some load. -/
structure Tidy (m : Machine) : Prop where
  idle : m.engine.running = false → m.Idle
  readers : ∀ t ∈ m.engine.tasks, t.owned = false → ∃ load ≤ m.kernel.loads, t.job = m.engine.mode.reader load

variable {m m₁ : Machine}

theorem reader_ne_poller (mode : Mode) (load interval : Nat) : mode.reader load ≠ .pollCounters interval := by
  cases mode <;> nofun

/-- Packets change only the maps and what waits for readers. -/
theorem inject_eq (m : Machine) (packet : Frame) (d : Direction) (cpu : Nat) : ∃ maps inbox,
    (m.inject packet d cpu).2 =
      { m with kernel := ({ m.kernel with maps, inbox } : Kernel).overhear m.opened packet.data } := by
  obtain ⟨maps, inbox, hkernel⟩ := m.kernel.inject_eq packet d cpu
  exact ⟨maps, inbox, by rw [← hkernel]; rfl⟩

/-- Where all sockets that are open have a filter, only the programs that are linked see a packet. -/
theorem inject_of_filtered (h : ∀ load, m.opened load = true → m.kernel.unfiltered load = false) (packet : Frame)
    (d : Direction) (cpu : Nat) :
    m.inject packet d cpu = ((m.kernel.inject packet d cpu).1, { m with kernel := (m.kernel.inject packet d cpu).2 }) := by
  obtain ⟨maps, inbox, hkernel⟩ := m.kernel.inject_eq packet d cpu
  have hoverheard : (m.kernel.inject packet d cpu).2.overhear m.opened packet.data = (m.kernel.inject packet d cpu).2 :=
    Kernel.overhear_eq (fun load _ hopened => by rw [hkernel]; exact h load hopened) packet.data
  unfold inject
  simp only [hoverheard]

theorem Reachable.start (hm : m.Reachable) (h : Host) : (m.start h).2.Reachable := .step hm h .start

/-! ### What a step keeps -/

/-- Nothing is given up if nothing is loaded. -/
theorem Idle.giveUp_kernel (hm : m.Idle) (t : Telemetry) : (m.after m.kernel t).giveUp.kernel = m.kernel :=
  if_neg (by rw [after_kernel, hm.loaded]; nofun)

theorem Failing.idle {h : Host} (hf : m.Failing h m₁) (hm : m.Idle) : m₁.Idle := by
  have howned : ∀ {tasks : List Task}, ∀ t ∈ tasks.map fun t => { t with owned := false }, t.owned = false := by
    intro tasks t ht
    obtain ⟨_, -, rfl⟩ := List.mem_map.mp ht
    rfl
  cases hf with
  | unloaded hl t =>
    exact ⟨hm.polled, by rw [hm.giveUp_kernel]; exact hm.loaded, by rw [hm.giveUp_kernel]; exact hm.links, howned⟩
  | unlinked => exact ⟨hm.polled, rfl, rfl, howned⟩
  | uncounted => exact ⟨hm.polled, rfl, rfl, howned⟩

theorem loads_giveUp (m : Machine) : m.giveUp.kernel.loads = m.kernel.loads := by
  unfold giveUp
  split <;> rfl

/-- A start that fails leaves the mode and the earlier tasks, and at most a reader more. -/
theorem Failing.engine_eq {h : Host} (hf : m.Failing h m₁) :
    m₁.engine.running = m.engine.running ∧ m₁.engine.mode = m.engine.mode ∧ m.kernel.loads ≤ m₁.kernel.loads ∧
      ∀ t ∈ m₁.engine.tasks,
        (∃ load ≤ m₁.kernel.loads, t.job = m.engine.mode.reader load) ∨ ∃ t₀ ∈ m.engine.tasks, t.job = t₀.job := by
  have hearlier : ∀ t ∈ m.engine.tasks.map fun t => { t with owned := false }, ∃ t₀ ∈ m.engine.tasks, t.job = t₀.job := by
    intro t ht
    obtain ⟨t₀, ht₀, rfl⟩ := List.mem_map.mp ht
    exact ⟨t₀, ht₀, rfl⟩
  have hloaded : ∀ o w r, m.kernel.loads ≤ (m.loadedKernel h o w r).loads := fun o w r => by
    rw [loads_loadedKernel]
    exact Nat.le_succ _
  cases hf with
  | unloaded => exact ⟨rfl, rfl, Nat.le_of_eq (loads_giveUp _).symm, fun t ht => Or.inr (hearlier t ht)⟩
  | @unlinked o w r => exact ⟨rfl, rfl, hloaded o w r, fun t ht => Or.inr (hearlier t ht)⟩
  | @uncounted o w r =>
    refine ⟨rfl, rfl, hloaded o w r, fun t ht => ?_⟩
    obtain ⟨t₀, ht₀, rfl⟩ := List.mem_map.mp ht
    rcases List.mem_append.mp ht₀ with ht₀ | ht₀
    · exact Or.inr (hearlier _ (List.mem_map_of_mem ht₀))
    · cases List.mem_singleton.mp ht₀
      exact Or.inl ⟨m.kernel.loads + 1, Nat.le_of_eq (m.loads_loadedKernel h o w r).symm, rfl⟩

namespace Tidy

theorem settle (hm : m.Tidy) : m.settle.Tidy := by
  have hloads := (Settles.settle m).loads
  obtain ⟨_, tasks, ⟨hooks, polled, outlets, rfl⟩, hsettle, hfrom⟩ := Settles.settle m
  constructor
  case idle =>
    intro hrunning
    have hidle := hm.idle (by rw [hsettle] at hrunning; exact hrunning)
    -- Every task of an idle engine is a reader, so nothing is polled.
    have hpolled := settle_polled fun t ht interval hjob => by
      obtain ⟨load, -, hreader⟩ := hm.readers t ht (hidle.owned t ht)
      exact reader_ne_poller _ _ _ (hreader.symm.trans hjob)
    refine ⟨hpolled.trans hidle.polled, by rw [hsettle]; exact hidle.loaded, by rw [hsettle]; exact hidle.links, ?_⟩
    rw [hsettle]
    intro t' ht'
    obtain ⟨t, ht, hcontinues⟩ := hfrom t' ht'
    exact hcontinues.owned.trans (hidle.owned t ht)
  case readers =>
    rw [hloads, hsettle]
    intro t' ht' hunowned
    obtain ⟨t, ht, hcontinues⟩ := hfrom t' ht'
    obtain ⟨load, hload, hreader⟩ := hm.readers t ht (hcontinues.owned.symm.trans hunowned)
    exact ⟨load, hload, hcontinues.job.trans hreader⟩

/-- To be tidy is a matter of the engine's tasks and of what is loaded and linked. -/
theorem congr (hm : m.Tidy) (hrunning : m₁.engine.running = m.engine.running) (hmode : m₁.engine.mode = m.engine.mode)
    (htasks : m₁.engine.tasks = m.engine.tasks) (hpolled : m₁.engine.polled = m.engine.polled)
    (hloaded : m₁.kernel.loaded = m.kernel.loaded) (hlinks : m₁.kernel.links = m.kernel.links)
    (hloads : m₁.kernel.loads = m.kernel.loads) : m₁.Tidy := by
  refine ⟨fun h => ?_, by rw [htasks, hmode, hloads]; exact hm.readers⟩
  have hidle := hm.idle (hrunning.symm.trans h)
  exact ⟨hpolled.trans hidle.polled, hloaded.trans hidle.loaded, hlinks.trans hidle.links,
    by rw [htasks]; exact hidle.owned⟩

theorem pass (hm : m.Tidy) (seconds : Nat) : (m.pass seconds).Tidy := hm.congr rfl rfl rfl rfl rfl rfl rfl

theorem onSession (hm : m.Tidy) (s : SessionStep) : (m.onSession s).2.Tidy := hm.congr rfl rfl rfl rfl rfl rfl rfl

theorem inject (hm : m.Tidy) (packet : Frame) (d : Direction) (cpu : Nat) : (m.inject packet d cpu).2.Tidy := by
  obtain ⟨maps, inbox, hinject⟩ := m.inject_eq packet d cpu
  rw [hinject]
  exact hm.congr rfl rfl rfl rfl rfl rfl (Kernel.loads_overhear _ _ _)

theorem sample (hm : m.Tidy) (bytes : Bytes) : ({ m with kernel := m.kernel.sample bytes } : Machine).Tidy :=
  hm.congr rfl rfl rfl rfl rfl rfl rfl

theorem disturb (hm : m.Tidy) (c : KernelCall) (reason : Option String) :
    ({ m with kernel := m.kernel.disturb c reason } : Machine).Tidy :=
  hm.congr rfl rfl rfl rfl rfl rfl rfl

theorem failSocket (hm : m.Tidy) (load : Nat) (reason : String) :
    ({ m with kernel := m.kernel.failSocket load reason } : Machine).Tidy :=
  hm.congr rfl rfl rfl rfl rfl rfl (m.kernel.loads_failSocket load reason)

theorem start (hm : m.Tidy) (h : Host) : (m.start h).2.Tidy := by
  cases hrunning : m.engine.running with
  | true =>
    have hsame : (m.start h).2 = m := by simp [Machine.start, hrunning]
    rwa [hsame]
  | false =>
    rcases hs : m.start h with ⟨e | _, m₁⟩
    · have hfailing := start_error hrunning hs
      obtain ⟨-, hmode, hloads, htasks⟩ := hfailing.engine_eq
      refine ⟨fun _ => hfailing.idle (hm.idle hrunning), fun t ht _ => ?_⟩
      show ∃ load ≤ m₁.kernel.loads, t.job = m₁.engine.mode.reader load
      rw [hmode]
      rcases htasks t ht with hjob | ⟨t₀, ht₀, hjob⟩
      · exact hjob
      · obtain ⟨load, hload, hreader⟩ := hm.readers t₀ ht₀ ((hm.idle hrunning).owned t₀ ht₀)
        exact ⟨load, Nat.le_trans hload hloads, hjob.trans hreader⟩
    · obtain ⟨-, o, w, r, -, -, -, events, t, rfl⟩ := start_ok hs
      refine ⟨nofun, fun t ht hunowned => ?_⟩
      rw [launched_tasks] at ht
      rcases List.mem_append.mp ht with ht | ht
      · obtain ⟨load, hload, hreader⟩ := hm.readers t ht hunowned
        exact ⟨load, Nat.le_trans hload (Nat.le_of_lt (Nat.lt_of_lt_of_eq (Nat.lt_succ_self _)
          (m.loads_loadedKernel h o w r).symm)), hreader⟩
      · rw [owned_of_mem_startTasks ht] at hunowned
        cases hunowned

theorem stop (hm : m.Tidy) : m.stop.2.Tidy := by
  unfold Machine.stop
  split
  · exact hm
  · have hleft : ∀ t ∈ m.engine.tasks.filter fun t => !t.owned, t ∈ m.engine.tasks ∧ t.owned = false := by
      intro t ht
      simpa using List.mem_filter.mp ht
    exact ⟨fun _ => ⟨rfl, rfl, rfl, fun t ht => (hleft t ht).2⟩, fun t ht => hm.readers t (hleft t ht).1⟩

theorem step (hm : m.Tidy) (h : Host) (s : MachineStep) : (m.step h s).2.Tidy := by
  cases s with
  | start => exact hm.start h
  | stop => exact hm.stop
  | health => exact hm
  | hook frame => exact hm.onSession _
  | onFrame frame => exact hm.onSession _
  | enforce frame => exact hm.onSession _
  | consume s => exact hm.onSession _
  | inject packet d cpu => exact hm.inject packet d cpu
  | sample bytes => exact hm.sample bytes
  | disturb c reason => exact hm.disturb c reason
  | failSocket load reason => exact hm.failSocket load reason
  | settle => exact hm.settle
  | tick seconds => exact (hm.settle.pass seconds).settle

end Tidy

/-- Every machine that can be reached is tidy. -/
theorem Reachable.tidy (hm : m.Reachable) : m.Tidy := by
  induction hm with
  | @built _ _ _ engine hb =>
    obtain ⟨-, htasks, hpolled⟩ := Engine.build_ok hb
    have hnone : ∀ t ∈ (Machine.create engine).engine.tasks, False := by
      intro t ht
      rw [show (Machine.create engine).engine.tasks = [] from htasks] at ht
      cases ht
    exact ⟨fun _ => ⟨hpolled, rfl, rfl, fun t ht => (hnone t ht).elim⟩, fun t ht => (hnone t ht).elim⟩
  | step _ h s ih => exact ih.step h s

end Machine
end FrameSentry
