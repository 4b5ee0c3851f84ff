import FrameSentry.Proofs.Daemon.Aggregate
import FrameSentry.Proofs.Daemon.Shutdown

/-! The health that a daemon reports is that of its parts. It is the health of the worst part that counts: whether the
    engine runs, whether the consumer's task is there and goes on, whether their queue is open, and whether a task of
    the engine has ended. So after a second start, which finds no consumer any more, the engine runs and the daemon is
    unhealthy. The counters of the kernel are reported as long as the engine runs, for a start shows some, which polls
    only replace, and a stop takes them away. -/

namespace FrameSentry

/-! ### The two parts -/

/-- The queue is closed, or a task that the engine has started and not given up has ended. -/
def Engine.Impaired (e : Engine) : Prop :=
  e.session.hooks.queue.closed = true ∨ ∃ t ∈ e.tasks, t.owned = true ∧ t.phase = .finished

instance (e : Engine) : Decidable e.Impaired := inferInstanceAs (Decidable (_ ∨ _))

theorem Engine.severity_health (e : Engine) :
    (2 ≤ e.health.severity ↔ e.running = false) ∧ (1 ≤ e.health.severity ↔ e.running = false ∨ e.Impaired) := by
  unfold health Impaired
  cases e.running with
  | false => simp [Health.severity]
  | true =>
    cases e.session.hooks.queue.closed with
    | true => simp [Health.severity]
    | false =>
      by_cases hended : ∃ t ∈ e.tasks, t.owned = true ∧ t.phase = .finished
      · simp [Health.severity, hended]
      · simp [Health.severity, hended]

namespace Orchestrator
variable {o : Orchestrator} {m : Machine}

/-- There is a consumer's task, and it has not ended. -/
def Attended (o : Orchestrator) : Prop := ∃ n, o.consumer = .task (.waiting n)

theorem not_attended (o : Orchestrator) :
    ¬ o.Attended ↔ o.consumer = .held ∨ o.consumer = .gone ∨ ∃ n, o.consumer = .task (.ended n) := by
  unfold Attended
  rcases o.consumer with _ | ⟨_ | _⟩ | _ <;> simp

theorem severity_consumerHealth {n : Nat} (hn : 0 < n) (hn₂ : n ≤ 2) (o : Orchestrator) :
    n ≤ o.consumerHealth.severity ↔ ¬ o.Attended := by
  unfold consumerHealth Attended
  rcases o.consumer with _ | ⟨_ | _⟩ | _ <;> simp [Health.severity] <;> omega

theorem le_severity_health {n : Nat} (hn : 0 < n) (hm : o.machine = some m) :
    n ≤ o.health.status.severity ↔ n ≤ m.engine.health.severity ∨ n ≤ o.consumerHealth.severity := by
  show n ≤ (PartHealth.aggregate _).severity ↔ _
  rw [PartHealth.le_severity hn, hm]
  simp

/-- The three answers, for a daemon with an engine. -/
theorem status_iff (hm : o.machine = some m) :
    ((∃ reason, o.health.status = .unhealthy reason) ↔ m.engine.running = false ∨ ¬ o.Attended) ∧
      ((∃ reason, o.health.status = .degraded reason) ↔ m.engine.running = true ∧ o.Attended ∧ m.engine.Impaired) ∧
      (o.health.status = .healthy ↔ m.engine.running = true ∧ o.Attended ∧ ¬ m.engine.Impaired) := by
  have hworst : 2 ≤ o.health.status.severity ↔ m.engine.running = false ∨ ¬ o.Attended := by
    rw [le_severity_health (by omega) hm, m.engine.severity_health.1, severity_consumerHealth (by omega) (by omega)]
  have hbad : 1 ≤ o.health.status.severity ↔ (m.engine.running = false ∨ m.engine.Impaired) ∨ ¬ o.Attended := by
    rw [le_severity_health (by omega) hm, m.engine.severity_health.2, severity_consumerHealth (by omega) (by omega)]
  rw [Health.isUnhealthy_iff, Health.isDegraded_iff, Health.isHealthy_iff, hworst, hbad]
  cases m.engine.running <;> by_cases hattended : o.Attended <;> simp [hattended]

theorem status_of_no_machine (hm : o.machine = none) : o.health.status = .healthy ∧ o.health.kernelCounters = none := by
  unfold health
  rw [hm]
  exact ⟨rfl, rfl⟩

end Orchestrator

/-! ### What a run keeps -/

namespace Machine
variable {m m₁ : Machine}

/-- An engine that does not run is idle, and one that runs shows counters. -/
structure Steady (m : Machine) : Prop where
  tidy : m.Tidy
  shown : m.engine.running = true → m.engine.polled.isSome

namespace Steady

theorem shown_iff (hm : m.Steady) : m.engine.polled.isSome ↔ m.engine.running = true := by
  refine ⟨fun hpolled => ?_, hm.shown⟩
  cases hrunning : m.engine.running with
  | true => rfl
  | false =>
    rw [(hm.tidy.idle hrunning).polled] at hpolled
    cases hpolled

theorem create {settings : Option EngineSettings} {capacity : Option Nat} {sink : Sink} {engine : Engine}
    (hb : Engine.build settings capacity sink = .ok engine) : (Machine.create engine).Steady := by
  refine ⟨(Reachable.built hb).tidy, fun hrunning => ?_⟩
  rw [show (Machine.create engine).engine.running = false from (Engine.build_ok hb).1] at hrunning
  cases hrunning

/-- What the hooks share is of no account. -/
theorem setSession (hm : m.Steady) (session : Session) : (m.setEngine { m.engine with session }).Steady :=
  ⟨hm.tidy.congr rfl rfl rfl rfl rfl rfl rfl, hm.shown⟩

theorem setTelemetry (hm : m.Steady) (t : Telemetry) : (m.setTelemetry t).Steady := hm.setSession _

theorem start (hm : m.Steady) (h : Host) : (m.start h).2.Steady := by
  refine ⟨hm.tidy.start h, fun hstarted => ?_⟩
  cases hrunning : m.engine.running with
  | true =>
    rw [start_of_running hrunning]
    exact hm.shown hrunning
  | false =>
    rcases hs : m.start h with ⟨e | _, m₁⟩
    · obtain ⟨hleft, -⟩ := (start_error hrunning hs).engine_eq
      rw [hs] at hstarted
      exact absurd (hleft.symm.trans hstarted) (by simp [hrunning])
    · obtain ⟨-, o, w, r, -, -, -, events, t, rfl⟩ := start_ok hs
      rfl

theorem stop (hm : m.Steady) : m.stop.2.Steady := by
  refine ⟨hm.tidy.stop, ?_⟩
  unfold Machine.stop
  split
  · exact hm.shown
  · exact nofun

theorem stopEngine (hm : m.Steady) : (Orchestrator.stopEngine m).2.Steady := by
  have hstop := hm.stop
  unfold Orchestrator.stopEngine
  split
  · split <;> rename_i heq <;> rwa [heq] at hstop
  · exact hm

theorem settle (hm : m.Steady) : m.settle.Steady := by
  refine ⟨hm.tidy.settle, fun hrunning => settle_shown (hm.shown ?_)⟩
  obtain ⟨_, _, ⟨_, _, _, rfl⟩, hsettle, -⟩ := Settles.settle m
  rw [hsettle] at hrunning
  exact hrunning

theorem inject (hm : m.Steady) (packet : Frame) (d : Direction) (cpu : Nat) : (m.inject packet d cpu).2.Steady :=
  ⟨hm.tidy.inject packet d cpu, hm.shown⟩

theorem sample (hm : m.Steady) (bytes : Bytes) : ({ m with kernel := m.kernel.sample bytes } : Machine).Steady :=
  ⟨hm.tidy.sample bytes, hm.shown⟩

theorem disturb (hm : m.Steady) (c : KernelCall) (reason : Option String) :
    ({ m with kernel := m.kernel.disturb c reason } : Machine).Steady :=
  ⟨hm.tidy.disturb c reason, hm.shown⟩

theorem failSocket (hm : m.Steady) (load : Nat) (reason : String) :
    ({ m with kernel := m.kernel.failSocket load reason } : Machine).Steady :=
  ⟨hm.tidy.failSocket load reason, hm.shown⟩

theorem pass (hm : m.Steady) (seconds : Nat) : (m.pass seconds).Steady := ⟨hm.tidy.pass seconds, hm.shown⟩

end Steady
end Machine

namespace Orchestrator
variable {o o' o₀ : Orchestrator} {m : Machine} {enabled : Bool}

/-- There is an engine just if it was enabled, and it is steady. -/
structure Intact (enabled : Bool) (o : Orchestrator) : Prop where
  machine : o.machine.isSome = enabled
  steady : ∀ m, o.machine = some m → m.Steady

namespace Intact

theorem map (ho : Intact enabled o) {f : Machine → Machine} (hf : ∀ m : Machine, m.Steady → (f m).Steady)
    (hmachine : o'.machine = o.machine.map f) : Intact enabled o' := by
  refine ⟨by rw [hmachine, Option.isSome_map, ho.machine], fun m' hm' => ?_⟩
  rw [hmachine] at hm'
  obtain ⟨m, hm, rfl⟩ := Option.map_eq_some_iff.mp hm'
  exact hf m (ho.steady m hm)

/-- To follow the one machine is enough. -/
theorem put (ho : Intact enabled o) (hm : o.machine = some m) {m' : Machine} (hm' : m.Steady → m'.Steady)
    (hmachine : o'.machine = some m') : Intact enabled o' :=
  ho.map (fun _ _ => hm' (ho.steady m hm)) (by rw [hmachine, hm]; rfl)

theorem onMachine (ho : Intact enabled o) {f : Machine → Machine} (hf : ∀ m : Machine, m.Steady → (f m).Steady) :
    Intact enabled (o.onMachine f) := ho.map hf rfl

theorem log (ho : Intact enabled o) (level : Level) (message : String) (fields : List (String × FieldValue)) :
    Intact enabled (o.log level message fields) := by
  refine ho.map (f := fun m => m.setTelemetry (o.telemetry.log .orchestrator level message fields))
    (fun m hm => hm.setTelemetry _) ?_
  unfold Orchestrator.log setTelemetry
  cases o.machine <;> simp

theorem start (ho : Intact enabled o) (h : Host) : Intact enabled (o.start h).2 := by
  refine ho.map (f := fun m => (m.start h).2) (fun m hm => hm.start h) ?_
  unfold Orchestrator.start
  cases hm : o.machine with
  | none => exact hm
  | some m => rcases hs : m.start h with ⟨_ | _, m₁⟩ <;> simp [hs]

theorem shutDown (ho : Intact enabled o) (picks : List Bool) : Intact enabled (o.shutDown picks).2 := by
  unfold Orchestrator.shutDown
  cases hm : o.machine with
  | none => exact ho
  | some m =>
    simp only
    have hstopped : Intact enabled { o with
        machine := some ((stopEngine m).2.setEngine { (stopEngine m).2.engine with
          session := (endConsumer picks o.consumer (stopEngine m).2.engine.session).2.2 })
        consumer := (endConsumer picks o.consumer (stopEngine m).2.engine.session).2.1 } :=
      ho.put hm (fun hm => hm.stopEngine.setSession _) rfl
    split
    · exact hstopped.log _ _ _
    · exact hstopped

theorem settle (ho : Intact enabled o) : Intact enabled o.settle := by
  unfold Orchestrator.settle
  cases hm : o.machine with
  | none => exact ho
  | some m => exact ho.put hm (fun hm => hm.settle.setSession _) rfl

theorem inject (ho : Intact enabled o) (packet : Frame) (d : Direction) (cpu : Nat) :
    Intact enabled (o.inject packet d cpu).2 := by
  unfold Orchestrator.inject
  cases hm : o.machine with
  | none => exact ho
  | some m => exact ho.put hm (fun hm => hm.inject packet d cpu) rfl

theorem handleOne (ho : Intact enabled o) : Intact enabled o.handleOne := by
  unfold Orchestrator.handleOne
  split
  · rename_i hm
    split
    · exact ho.put hm (fun hm => hm.setSession _) rfl
    · exact ho
  · exact ho

theorem move (ho : Intact enabled o) (x : Move) : Intact enabled (o.move x) := by
  cases x with
  | step h s =>
    cases s with
    | start => exact ho.start h
    | shutDown picks => exact ho.shutDown picks
    | health => exact ho
    | inject packet d cpu => exact ho.inject packet d cpu
    | sample bytes => exact ho.onMachine fun m hm => hm.sample bytes
    | disturb c reason => exact ho.onMachine fun m hm => hm.disturb c reason
    | failSocket load reason => exact ho.onMachine fun m hm => hm.failSocket load reason
    | settle => exact ho.settle
    | tick seconds => exact (ho.settle.onMachine fun m hm => hm.pass seconds).settle
  | call s => exact ho.onMachine fun m hm => hm.setSession _
  | handle => exact ho.handleOne

theorem perform (ho : Intact enabled o) (moves : List Move) : Intact enabled (o.perform moves) := by
  induction moves generalizing o with
  | nil => exact ho
  | cons x rest ih => exact ih (ho.move x)

theorem built {exporter : Exporter} {c : Config} {fs : Files} {t t' : Telemetry}
    (hb : build exporter c fs t = (.ok o, t')) :
    Intact c.engine.enabled o := by
  obtain ⟨-, t₁, ⟨hdisabled, rfl⟩ | ⟨henabled, rules, e, hengine, rfl⟩⟩ := build_ok hb
  · rw [hdisabled]
    refine ⟨rfl, fun m hm => ?_⟩
    cases hm
  · rw [henabled]
    refine ⟨rfl, fun m hm => ?_⟩
    cases hm
    exact (Machine.Steady.create hengine).setTelemetry _

end Intact

/-- The health of a daemon reflects the real state of its parts, after whatever happened since it was built: starts,
    shutdowns, restarts, packets, samples, time, calls of the hooks, and all of these with any faults. With the engine
    disabled it is healthy. Else it is unhealthy just when the engine does not run, or there is no consumer's task, or
    that task has ended; degraded just when the engine runs and the task goes on, but the queue is closed or a task of
    the engine has ended; and healthy in all other states. Counters of the kernel are reported just while the engine
    runs. -/
theorem health_reflects_parts {exporter : Exporter} {c : Config} {fs : Files} {t t' : Telemetry}
    (hb : build exporter c fs t = (.ok o₀, t')) (moves : List Move) :
    let o := o₀.perform moves
    (c.engine.enabled = false → o.health.status = .healthy ∧ o.health.kernelCounters = none) ∧
      (c.engine.enabled = true → ∃ m, o.machine = some m ∧
        ((∃ reason, o.health.status = .unhealthy reason) ↔ m.engine.running = false ∨
          o.consumer = .held ∨ o.consumer = .gone ∨ ∃ n, o.consumer = .task (.ended n)) ∧
        ((∃ reason, o.health.status = .degraded reason) ↔
          m.engine.running = true ∧ o.Attended ∧ m.engine.Impaired) ∧
        (o.health.status = .healthy ↔ m.engine.running = true ∧ o.Attended ∧ ¬ m.engine.Impaired) ∧
        (o.health.kernelCounters.isSome ↔ m.engine.running = true)) := by
  intro o
  have ho : Intact c.engine.enabled o := (Intact.built hb).perform moves
  constructor
  · intro hdisabled
    refine status_of_no_machine ?_
    simpa [hdisabled] using ho.machine
  · intro henabled
    obtain ⟨m, hm⟩ := Option.isSome_iff_exists.mp (ho.machine.trans henabled)
    obtain ⟨hunhealthy, hdegraded, hhealthy⟩ := status_iff hm
    have hcounters : o.health.kernelCounters = m.engine.polled := by
      unfold health
      rw [hm]
      rfl
    rw [hcounters]
    rw [not_attended] at hunhealthy
    exact ⟨m, hm, hunhealthy, hdegraded, hhealthy, (ho.steady m hm).shown_iff⟩

/-- Each answer occurs. A daemon that is started twice, with a shutdown between, runs its engine without a consumer; one
    whose reader cannot wait for the ring has lost a task of the engine; and one that was started is healthy. -/
theorem health_reflects_parts_restart :
    let h : Host := .holding .standard
    let faulty : Host := .holding { Object.standard with faults := [(.watchRing, "EPERM")] }
    let again := standard.perform [.step h .start, .step h (.shutDown []), .step h .start]
    let lost := standard.perform [.step faulty .start, .step faulty .settle]
    let started := standard.perform [.step h .start, .step h .settle]
    ((∃ reason, again.health.status = .unhealthy reason) ∧ again.health.kernelCounters.isSome) ∧
      (∃ reason, lost.health.status = .degraded reason) ∧ started.health.status = .healthy := by
  intro h faulty again lost started
  refine ⟨?_, ?_, ?_⟩
  · obtain ⟨m, hm, hunhealthy, -, -, hcounters⟩ :=
      (health_reflects_parts build_standard [.step h .start, .step h (.shutDown []), .step h .start]).2 rfl
    have hgone : again.consumer = .gone := by decide +kernel
    have hrunning : again.machine.map (fun m => m.engine.running) = some true := by decide +kernel
    rw [hm] at hrunning
    have hstatus := hunhealthy.mpr (Or.inr (Or.inr (Or.inl hgone)))
    have hshown := hcounters.mpr (Option.some.inj hrunning)
    exact ⟨hstatus, hshown⟩
  · obtain ⟨m, hm, -, hdegraded, -⟩ :=
      (health_reflects_parts build_standard [.step faulty .start, .step faulty .settle]).2 rfl
    have hattended : lost.consumer = .task (.waiting 0) := by decide +kernel
    have hengine : lost.machine.map (fun m => (m.engine.running, decide m.engine.Impaired)) = some (true, true) := by
      decide +kernel
    rw [hm] at hengine
    obtain ⟨hrunning, himpaired⟩ := Prod.mk.inj (Option.some.inj hengine)
    exact hdegraded.mpr ⟨hrunning, ⟨0, hattended⟩, of_decide_eq_true himpaired⟩
  · obtain ⟨m, hm, -, -, hhealthy, -⟩ :=
      (health_reflects_parts build_standard [.step h .start, .step h .settle]).2 rfl
    have hattended : started.consumer = .task (.waiting 0) := by decide +kernel
    have hengine : started.machine.map (fun m => (m.engine.running, decide m.engine.Impaired)) = some (true, false) := by
      decide +kernel
    rw [hm] at hengine
    obtain ⟨hrunning, himpaired⟩ := Prod.mk.inj (Option.some.inj hengine)
    exact hhealthy.mpr ⟨hrunning, ⟨0, hattended⟩, of_decide_eq_false himpaired⟩

end Orchestrator
end FrameSentry
