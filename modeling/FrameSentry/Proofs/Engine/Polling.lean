import FrameSentry.Proofs.Engine.KernelCounters
import FrameSentry.Proofs.Engine.Lifecycle
import FrameSentry.Proofs.Hook.Reported

/-! What a running engine tells of the kernel's counters. The poller is the last of its tasks. It polls when the engine
    settles for the first time and then once in so many seconds, and polls that are overdue are made up when the engine
    settles next. Each poll publishes the counters as they are then, and the last one is what the engine shows. Nothing
    else that can happen to the engine, short of a stop, publishes them or changes what is shown. -/

namespace FrameSentry
namespace Machine
variable {m m' m'' : Machine} {snapshots snapshots' : List Counters} {interval wake : Nat}

/-- These counters were published one after the other, and the last of them is shown. -/
structure Publishes (m : Machine) (snapshots : List Counters) (m' : Machine) : Prop where
  published : m'.telemetry.ofKernel = m.telemetry.ofKernel ++ snapshots.flatMap Metrics.kernelFrames
  polled : m'.engine.polled = snapshots.getLast?.or m.engine.polled

namespace Publishes

theorem none (htold : m'.telemetry.ofKernel = m.telemetry.ofKernel) (hpolled : m'.engine.polled = m.engine.polled) :
    m.Publishes [] m' :=
  ⟨htold.trans (List.append_nil _).symm, hpolled⟩

theorem refl (m : Machine) : m.Publishes [] m := none rfl rfl

theorem trans (h₁ : m.Publishes snapshots m') (h₂ : m'.Publishes snapshots' m'') :
    m.Publishes (snapshots ++ snapshots') m'' := by
  constructor
  · rw [h₂.published, h₁.published, List.flatMap_append, List.append_assoc]
  · rw [h₂.polled, h₁.polled, List.getLast?_append, Option.or_assoc]

theorem withTasks (h : m.Publishes snapshots m') (tasks : List Task) : m.Publishes snapshots (m'.withTasks tasks) :=
  ⟨h.published, h.polled⟩

theorem reported {hooks : HookState} (h : m.engine.session.hooks.Reported hooks) : m.Publishes [] (m.setHooks hooks) :=
  none h.ofKernel rfl

end Publishes

/-! ### One turn -/

theorem beginTask_publishes (t : Task) (m : Machine) : m.Publishes [] (beginTask t m).2 := by
  have hreader : ∀ c message, m.Publishes [] (beginReader c message t m).2 := fun c message => by
    unfold beginReader
    split
    · exact .none rfl rfl
    · exact .refl m
  unfold beginTask
  split
  · exact .refl m
  · split
    · exact hreader _ _
    · exact hreader _ _
    · exact .refl m

theorem forwardRecords_publishes (load n : Nat) (m : Machine) : m.Publishes [] (forwardRecords load n m).2 := by
  induction n generalizing m with
  | zero => exact .refl m
  | succ n ih =>
    have hreported : ∀ {sample ring hooks r}, m.engine.hookSettings.forward sample m.engine.session.hooks = (r, hooks) →
        m.Publishes [] (m.taken load ring hooks) := by
      intro sample ring hooks r hforward
      have hreported := m.engine.hookSettings.forward_reported m.engine.session.hooks sample
      rw [hforward] at hreported
      exact .none hreported.ofKernel rfl
    rcases forwardRecords_cases load n m with ⟨-, h⟩ | ⟨sample, ring, hooks, -, ⟨hforward, h⟩ | ⟨e, hforward, h⟩⟩
    · rw [h]
      exact .refl m
    · rw [h]
      exact (hreported hforward).trans (ih _)
    · rw [h]
      exact (hreported hforward).trans (.none rfl rfl)

theorem observeFrames_publishes (items : List Incoming) (m : Machine) : m.Publishes [] (observeFrames items m) := by
  induction items generalizing m with
  | nil => exact .refl m
  | cons item rest ih =>
    cases item with
    | frame data => exact (Publishes.reported (m.engine.hookSettings.onFrame_reported _ _)).trans (ih _)
    | failure reason =>
      have htold : m.Publishes [] (m.log .loader .warn "packet socket recv failed" [("error", .text reason)]) :=
        .none rfl rfl
      exact htold.trans (ih _)

theorem awaitSource_publishes (c : KernelCall) (message : String) {read : Task → Machine → Task × Machine} {t : Task}
    (hread : m.Publishes [] (read t m).2) : m.Publishes [] (awaitSource c message read t m).2 := by
  rcases awaitSource_cases c message read t m with ⟨-, h⟩ | ⟨reason, -, h⟩
  · rw [h]
    exact hread
  · rw [h]
    exact .none rfl rfl

theorem readTask_publishes (t : Task) (m : Machine) : m.Publishes [] (readTask t m).2 := by
  unfold readTask
  split
  · exact awaitSource_publishes _ _ (forwardRecords_publishes _ _ m)
  · rename_i load _ _ _
    have htaken : m.Publishes [] { m with
        kernel := m.kernel.setOutlet load { m.kernel.outlet load with inbox := [] } } := .none rfl rfl
    exact awaitSource_publishes _ _ (htaken.trans (observeFrames_publishes _ _))
  · exact .refl m

/-- Counters that cannot be read are told of in the log alone. -/
theorem readCounters_eq (outcomes : List Outcome) (m : Machine) : ∃ logs,
    readCounters outcomes m = (outcomes.map m.kernel.values, m.setTelemetry ⟨logs, m.telemetry.metrics⟩) := by
  induction outcomes generalizing m with
  | nil => exact ⟨m.telemetry.logs, rfl⟩
  | cons o rest ih =>
    obtain ⟨logs, hread⟩ : ∃ logs, m.readCounter o =
        (m.kernel.values o, m.setTelemetry ⟨logs, m.telemetry.metrics⟩) := by
      unfold readCounter Kernel.values
      cases m.kernel.readCounter o with
      | ok values => exact ⟨m.telemetry.logs, rfl⟩
      | error reason => exact ⟨_, rfl⟩
    obtain ⟨logs', hrest⟩ := ih (m.setTelemetry ⟨logs, m.telemetry.metrics⟩)
    refine ⟨logs', ?_⟩
    simp only [readCounters, hread, hrest]
    rfl

theorem poll_eq (m : Machine) : ∃ logs, m.poll = m.told
    ⟨logs, m.telemetry.metrics ++ Metrics.kernelFrames m.kernel.snapshot⟩ (some m.kernel.snapshot) := by
  obtain ⟨logs, hread⟩ := readCounters_eq Outcome.all m
  refine ⟨logs, ?_⟩
  unfold poll
  rw [hread]
  rfl

theorem poll_publishes (m : Machine) : m.Publishes [m.kernel.snapshot] m.poll := by
  obtain ⟨logs, hpoll⟩ := m.poll_eq
  rw [hpoll]
  refine ⟨?_, rfl⟩
  show List.filter _ (m.telemetry.metrics ++ Metrics.kernelFrames m.kernel.snapshot) = _
  rw [List.filter_append]
  rfl

/-- Nothing comes between polls that are made up, so all of them find the same. -/
theorem pollTimes_publishes (n : Nat) (m : Machine) :
    m.Publishes (List.replicate n m.kernel.snapshot) (m.pollTimes n) := by
  induction n generalizing m with
  | zero => exact .refl m
  | succ n ih =>
    obtain ⟨logs, hpoll⟩ := m.poll_eq
    have hsame : m.poll.kernel.snapshot = m.kernel.snapshot := by
      rw [hpoll]
      rfl
    have hrest := ih m.poll
    rw [hsame] at hrest
    exact m.poll_publishes.trans hrest

/-! ### Settling -/

/-- The last task of the engine polls, and it is in this phase; no other task polls. -/
def Poller (m : Machine) (interval : Nat) (phase : Phase) : Prop :=
  ∃ front owned, m.engine.tasks = front ++ [⟨.pollCounters interval, phase, owned⟩] ∧
    ∀ t ∈ front, ∀ n, t.job ≠ .pollCounters n

/-- The next poll is due at `wake`. A poller that has not run yet polls at once. -/
def Due (m : Machine) (interval wake : Nat) : Prop :=
  ∃ phase, m.Poller interval phase ∧ (phase = .waiting wake ∨ (phase = .fresh ∧ wake = m.clock))

theorem turns_last (turn : Task → Machine → Task × Machine) (front : List Task) (t : Task) (m : Machine) :
    turns turn (front ++ [t]) m = ((turns turn front m).1 ++ [(turn t (turns turn front m).2).1],
      (turn t (turns turn front m).2).2) := by
  induction front generalizing m with
  | nil => rfl
  | cons u rest ih => simp only [List.cons_append, turns, ih]

/-- Whatever the turn is, of what the tasks publish only the part of the poller counts, if the others publish nothing. -/
theorem eachTask_publishes {turn : Task → Machine → Task × Machine} {phase phase' : Phase}
    (hm : m.Poller interval phase)
    (hquiet : ∀ t, (∀ n, t.job ≠ .pollCounters n) → ∀ m' : Machine,
      m'.Works (turn t m').2 ∧ m'.Publishes [] (turn t m').2 ∧ t.Continues (turn t m').1)
    (hpoller : ∀ owned m', m.Works m' →
      (turn ⟨.pollCounters interval, phase, owned⟩ m').1 = ⟨.pollCounters interval, phase', owned⟩ ∧
        m'.Publishes snapshots (turn ⟨.pollCounters interval, phase, owned⟩ m').2) :
    m.Publishes snapshots (m.eachTask turn) ∧ (m.eachTask turn).Poller interval phase' := by
  obtain ⟨front, owned, htasks, hfront⟩ := hm
  obtain ⟨⟨hworks, hpublishes⟩, -, hfrom⟩ := turns_induct (I := fun m' => m.Works m' ∧ m.Publishes [] m')
    (R := Task.Continues) front (fun t ht m' ⟨hworks, hpublishes⟩ => by
      obtain ⟨hworks', hpublishes', hcontinues⟩ := hquiet t (hfront t ht) m'
      exact ⟨⟨hworks.trans hworks', hpublishes.trans hpublishes'⟩, hcontinues⟩) ⟨.refl m, .refl m⟩
  obtain ⟨htask, hpublishes'⟩ := hpoller owned _ hworks
  have hturns := turns_last turn front ⟨.pollCounters interval, phase, owned⟩ m
  rw [htask] at hturns
  unfold eachTask
  rw [htasks, hturns]
  refine ⟨(hpublishes.trans hpublishes').withTasks _, _, owned, rfl, fun t' ht' n => ?_⟩
  obtain ⟨t, ht, hcontinues⟩ := hfrom t' ht'
  rw [hcontinues.job]
  exact hfront t ht n

/-- What settling keeps besides the tasks. -/
theorem Settles.kept (h : m.Settles m') : m'.clock = m.clock ∧ m'.engine.running = m.engine.running ∧
    m'.kernel.faults = m.kernel.faults ∧ m'.kernel.links = m.kernel.links ∧
      m'.kernel.maps.counters = m.kernel.maps.counters := by
  obtain ⟨_, tasks, ⟨hooks, polled, outlets, rfl⟩, rfl, -⟩ := h
  exact ⟨rfl, rfl, rfl, rfl, rfl⟩

theorem begin_publishes (hm : m.Due interval wake) :
    m.Publishes [] (m.eachTask beginTask) ∧ (m.eachTask beginTask).Poller interval (.waiting wake) := by
  obtain ⟨phase, hpoller, hphase⟩ := hm
  refine eachTask_publishes hpoller
    (fun t _ m' => ⟨Works.of_tells (beginTask_tells t m'), beginTask_publishes t m', (beginTask_eq t m').2⟩)
    (fun owned m' hworks => ⟨?_, beginTask_publishes _ m'⟩)
  rcases hphase with rfl | ⟨rfl, rfl⟩
  · rfl
  · obtain ⟨_, _, _, rfl⟩ := hworks
    rfl

/-- As many polls are made as are due, and the next is due as late as it was to be. -/
theorem polls_publish (hm : m.Poller interval (.waiting wake)) :
    m.Publishes (List.replicate (pollsDue interval wake m.clock).1 m.kernel.snapshot) (m.eachTask pollTask) ∧
      (m.eachTask pollTask).Poller interval (.waiting (pollsDue interval wake m.clock).2) := by
  refine eachTask_publishes hm (fun t ht m' => ?_) (fun owned m' hworks => ?_)
  · rw [pollTask_of_reader ht]
    exact ⟨.refl m', .refl m', .refl t⟩
  · obtain ⟨hooks, polled, outlets, rfl⟩ := hworks
    exact ⟨rfl, pollTimes_publishes _ (m.worked hooks polled outlets)⟩

theorem read_publishes (hm : m.Poller interval (.waiting wake)) :
    m.Publishes [] (m.eachTask readTask) ∧ (m.eachTask readTask).Poller interval (.waiting wake) :=
  eachTask_publishes hm
    (fun t _ m' => ⟨Works.of_reads (readTask_reads t m').1, readTask_publishes t m', (readTask_reads t m').2⟩)
    (fun _ m' _ => ⟨rfl, readTask_publishes _ m'⟩)

theorem settle_publishes (hm : m.Due interval wake) :
    m.Publishes (List.replicate (pollsDue interval wake m.clock).1 m.kernel.snapshot) m.settle ∧
      m.settle.Poller interval (.waiting (pollsDue interval wake m.clock).2) := by
  obtain ⟨hclock, -, hfaults, -, hcounters⟩ := (Settles.begin m).kept
  obtain ⟨hbegin, hwaiting⟩ := begin_publishes hm
  obtain ⟨hpolls, hnext⟩ := polls_publish hwaiting
  obtain ⟨hread, hsettled⟩ := read_publishes hnext
  have hall := (hbegin.trans hpolls).trans hread
  rw [List.nil_append, List.append_nil, hclock, Kernel.snapshot_congr hfaults hcounters] at hall
  rw [hclock] at hsettled
  exact ⟨hall, hsettled⟩

end Machine
end FrameSentry
