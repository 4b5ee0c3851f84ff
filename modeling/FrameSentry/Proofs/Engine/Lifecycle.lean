import FrameSentry.Proofs.Engine.FailedStart
import FrameSentry.Proofs.Engine.StartNotes

/-! The life of an engine whose starts do not fail. It is refused a start just while it runs and a stop just while it
    does not, and a refusal changes nothing. What else it has of a start comes and goes with the running flag: the
    counters that it shows, its tasks, the programs that are linked. So while it does not run nothing happens to it, and
    a restart finds nothing of the start before; only the queue, its consumer and the hooks' counters stay. -/

namespace FrameSentry
namespace Machine
variable {m m₁ : Machine} {h : Host}

/-! ### Starts and stops that are refused -/

/-- An engine that does not run is not refused a start: where its start fails, it fails to attach. -/
theorem start_fails (hrunning : m.engine.running = false) {e : Error} (he : (m.start h).1 = .error e) :
    ∃ cause, e = .attach cause := by
  obtain ⟨t, hstart⟩ := start_eq hrunning h
  have hnoted := notes_setUp h (m.after m.kernel t)
  rw [hstart] at he
  rcases hsetUp : setUp h (m.after m.kernel t) with ⟨e' | _, m'⟩
  · rw [hsetUp] at he hnoted
    cases he
    exact hnoted.fails e rfl
  · rw [hsetUp] at he
    cases he

theorem start_of_running (hrunning : m.engine.running = true) (h : Host) :
    m.start h = (.error (.pipeline .alreadyRunning), m) := by
  unfold start
  rw [if_pos hrunning]

theorem start_refused_iff (m : Machine) (h : Host) :
    (m.start h).1 = .error (.pipeline .alreadyRunning) ↔ m.engine.running = true := by
  constructor
  · intro he
    cases hrunning : m.engine.running with
    | true => rfl
    | false =>
      obtain ⟨_, hcause⟩ := start_fails hrunning he
      cases hcause
  · intro hrunning
    rw [start_of_running hrunning]

theorem stop_of_not_running (hrunning : m.engine.running = false) : m.stop = (.error (.pipeline .notRunning), m) := by
  simp [stop, hrunning]

theorem stop_refused_iff (m : Machine) :
    m.stop.1 = .error (.pipeline .notRunning) ↔ m.engine.running = false := by
  constructor
  · intro he
    cases hrunning : m.engine.running with
    | false => rfl
    | true => simp [stop, hrunning] at he
  · intro hrunning
    rw [stop_of_not_running hrunning]

/-! ### What stays -/

/-- The queue, its consumer and the counters of the hooks are the same. -/
structure SameHooks (m m' : Machine) : Prop where
  queue : m'.engine.session.hooks.queue = m.engine.session.hooks.queue
  receiver : m'.engine.session.receiver = m.engine.session.receiver
  counters : m'.engine.session.hooks.counters = m.engine.session.hooks.counters

theorem start_same (m : Machine) (h : Host) : m.SameHooks (m.start h).2 := by
  cases hrunning : m.engine.running with
  | true => exact start_of_running hrunning h ▸ ⟨rfl, rfl, rfl⟩
  | false =>
    rcases hs : m.start h with ⟨e | _, m₁⟩
    · cases start_error hrunning hs <;> exact ⟨rfl, rfl, rfl⟩
    · obtain ⟨-, o, w, r, -, -, -, events, t, rfl⟩ := start_ok hs
      exact ⟨rfl, rfl, rfl⟩

theorem stop_same (m : Machine) : m.SameHooks m.stop.2 := by
  unfold stop
  split <;> exact ⟨rfl, rfl, rfl⟩

/-! ### Orderly runs -/

/-- A machine that an engine was built for, after steps among which no start failed unless the engine ran already. -/
inductive Orderly : Machine → Prop
  | built {settings : Option EngineSettings} {capacity : Option Nat} {sink : Sink} {engine : Engine}
      (hb : Engine.build settings capacity sink = .ok engine) : Orderly (.create engine)
  | step {m : Machine} (hm : m.Orderly) (h : Host) (s : MachineStep)
      (hs : s = .start → ∀ e, (m.start h).1 = .error e → e = .pipeline .alreadyRunning) : Orderly (m.step h s).2

theorem Orderly.reachable (hm : m.Orderly) : m.Reachable := by
  induction hm with
  | built hb => exact .built hb
  | step _ h s _ ih => exact .step ih h s

theorem poll_shown (m : Machine) : m.poll.engine.polled.isSome := by
  unfold poll
  generalize readCounters Outcome.all m = read
  rfl

theorem pollTimes_shown (n : Nat) (hm : m.engine.polled.isSome) : (m.pollTimes n).engine.polled.isSome := by
  induction n generalizing m with
  | zero => exact hm
  | succ n ih => exact ih m.poll_shown

/-- Polling shows counters where some were shown already. -/
theorem pollTask_shown (t : Task) (hm : m.engine.polled.isSome) : (pollTask t m).2.engine.polled.isSome := by
  unfold pollTask
  split
  · exact pollTimes_shown _ hm
  · exact hm

theorem settle_shown (hm : m.engine.polled.isSome) : m.settle.engine.polled.isSome := by
  rw [← eachTask_polled beginTask_reads] at hm
  have hpoll : ((m.eachTask beginTask).eachTask pollTask).engine.polled.isSome :=
    (turns_induct (I := fun m => m.engine.polled.isSome) (R := fun _ _ => True) _
      (fun t _ _ hm => ⟨pollTask_shown t hm, trivial⟩) hm).1
  unfold settle
  rw [eachTask_polled fun t m => (readTask_reads t m).1]
  exact hpoll

/-- The engine owns all its tasks, and shows counters if it runs. -/
structure Governed (m : Machine) : Prop where
  owned : ∀ t ∈ m.engine.tasks, t.owned = true
  shown : m.engine.running = true → m.engine.polled.isSome

namespace Governed

theorem congr (hg : m.Governed) (htasks : m₁.engine.tasks = m.engine.tasks)
    (hrunning : m₁.engine.running = m.engine.running) (hpolled : m₁.engine.polled = m.engine.polled) :
    m₁.Governed :=
  ⟨by rw [htasks]; exact hg.owned, by rw [hrunning, hpolled]; exact hg.shown⟩

theorem start (hg : m.Governed) (hs : ∀ e, (m.start h).1 = .error e → e = .pipeline .alreadyRunning) :
    (m.start h).2.Governed := by
  cases hrunning : m.engine.running with
  | true => rwa [start_of_running hrunning]
  | false =>
    rcases hstart : m.start h with ⟨e | _, m₁⟩
    · -- A start that is not refused fails to attach.
      have he : (m.start h).1 = .error e := by rw [hstart]
      obtain ⟨_, hcause⟩ := start_fails hrunning he
      rw [hs e he] at hcause
      cases hcause
    · obtain ⟨-, o, w, r, -, -, -, events, t, rfl⟩ := start_ok hstart
      refine ⟨fun t ht => ?_, fun _ => rfl⟩
      rw [launched_tasks] at ht
      exact (List.mem_append.mp ht).elim (hg.owned t) owned_of_mem_startTasks

theorem stop (hg : m.Governed) : m.stop.2.Governed := by
  unfold Machine.stop
  split
  · exact hg
  · exact ⟨fun t ht => hg.owned t (List.mem_filter.mp ht).1, nofun⟩

theorem settle (hg : m.Governed) : m.settle.Governed := by
  obtain ⟨_, tasks, ⟨_, _, _, rfl⟩, hsettle, hfrom⟩ := Settles.settle m
  constructor
  case owned =>
    rw [hsettle]
    intro t' ht'
    obtain ⟨t, ht, hcontinues⟩ := hfrom t' ht'
    exact hcontinues.owned.trans (hg.owned t ht)
  case shown =>
    intro hrunning
    exact settle_shown (hg.shown (by rw [hsettle] at hrunning; exact hrunning))

theorem step (hg : m.Governed) (h : Host) (s : MachineStep)
    (hs : s = .start → ∀ e, (m.start h).1 = .error e → e = .pipeline .alreadyRunning) : (m.step h s).2.Governed := by
  cases s with
  | start => exact hg.start (hs rfl)
  | stop => exact hg.stop
  | settle => exact hg.settle
  | tick seconds =>
    have hpass : (m.settle.pass seconds).Governed := hg.settle.congr rfl rfl rfl
    exact hpass.settle
  | _ => exact hg.congr rfl rfl rfl

end Governed

theorem Orderly.governed (hm : m.Orderly) : m.Governed := by
  induction hm with
  | @built _ _ _ engine hb =>
    obtain ⟨hrunning, htasks, -⟩ := Engine.build_ok hb
    refine ⟨fun t ht => ?_, fun h => ?_⟩
    · rw [show (Machine.create engine).engine.tasks = [] from htasks] at ht
      cases ht
    · rw [show (Machine.create engine).engine.running = false from hrunning] at h
      cases h
  | step _ h s hs ih => exact ih.step h s hs

/-! ### Between a stop and the next start -/

/-- Nothing is left of a start: no program is linked and no task is there, so whatever happens from outside the engine
    stays as it is. -/
structure Resting (m : Machine) : Prop where
  links : m.kernel.links = []
  tasks : m.engine.tasks = []
  undisturbed : ∀ (h : Host) (steps : List MachineStep), (∀ s ∈ steps, s.Passive) →
    (m.perform h steps).engine = m.engine

/-- What a stop that succeeds makes of a machine: the engine does not run and shows no counters, none of its tasks is left,
    no program is linked, and the last call to the kernel unloads the object. -/
structure Stopped (m m₁ : Machine) : Prop where
  running : m₁.engine.running = false
  polled : m₁.engine.polled = none
  tasks : m₁.engine.tasks = []
  loaded : m₁.kernel.loaded = false
  links : m₁.kernel.links = []
  trace : m₁.kernel.trace = m.kernel.trace ++ [.unloadObject]

/-- What a start that succeeds makes of a machine: the programs of the mode are linked, a new reader and a new poller
    are all the tasks; the counters and the ring of the kernel are empty, no frame waits at the socket, and the watched
    ports are those of the engine. -/
structure Restarted (m : Machine) (h : Host) (m₁ : Machine) : Prop where
  running : m₁.engine.running = true
  tasks : m₁.engine.tasks = m.startTasks
  links : m₁.kernel.links = m.engine.mode.links m.interface
  counters : m₁.kernel.maps.counters = List.replicate h.processors .zero
  records : m₁.kernel.maps.ring.records = []
  outstanding : m₁.kernel.maps.ring.outstanding = 0
  inbox : m₁.kernel.inbox = []
  watched : m₁.kernel.maps.watched = m.engine.watch.ports

/-- An idle engine owns none of its tasks, and an orderly one owns them all. -/
theorem Orderly.tasks_eq_nil (hm : m.Orderly) (hrunning : m.engine.running = false) : m.engine.tasks = [] := by
  have hidle := hm.reachable.tidy.idle hrunning
  rw [List.eq_nil_iff_forall_not_mem]
  intro t ht
  have howned := hm.governed.owned t ht
  rw [hidle.owned t ht] at howned
  cases howned

/-- So where no start has failed there is nothing of earlier starts that could disturb another one. -/
theorem Orderly.ended (hm : m.Orderly) (hrunning : m.engine.running = false) : m.Ended := by
  intro t ht
  rw [hm.tasks_eq_nil hrunning] at ht
  cases ht

theorem Orderly.resting (hm : m.Orderly) (hrunning : m.engine.running = false) : m.Resting :=
  ⟨(hm.reachable.tidy.idle hrunning).links, hm.tasks_eq_nil hrunning,
    fun h _ hs => (hm.ended hrunning).perform h hs⟩

theorem Orderly.stopped (hm : m.Orderly) (hrunning : m.engine.running = true) :
    ∃ m₁, m.stop = (.ok (), m₁) ∧ m.Stopped m₁ := by
  have hstop : ∃ m₁, m.stop = (.ok (), m₁) ∧ m₁.engine.tasks = m.engine.tasks.filter (fun t => !t.owned) ∧
      m₁.engine.running = false ∧ m₁.engine.polled = none ∧ m₁.kernel = m.kernel.unload := by
    unfold Machine.stop
    rw [if_neg (by simp [hrunning])]
    exact ⟨_, rfl, rfl, rfl, rfl, rfl⟩
  obtain ⟨m₁, hs, htasks, hstill, hpolled, hkernel⟩ := hstop
  refine ⟨m₁, hs, hstill, hpolled, ?_, by rw [hkernel]; rfl, by rw [hkernel]; rfl, by rw [hkernel]; rfl⟩
  rw [htasks, List.filter_eq_nil_iff]
  intro t ht
  simp [hm.governed.owned t ht]

theorem Orderly.restarted (hm : m.Orderly) (hs : m.start h = (.ok (), m₁)) : m.Restarted h m₁ := by
  obtain ⟨hrunning, o, w, r, -, -, -, events, t, rfl⟩ := start_ok hs
  refine ⟨rfl, ?_, rfl, rfl, rfl, rfl, rfl, rfl⟩
  rw [launched_tasks, hm.tasks_eq_nil hrunning]
  rfl

/-- The life of an engine is consistent in every run in which no start fails unless the engine runs already. A start is
    refused just while it runs, a stop just while it does not, and then nothing changes. It shows counters of the kernel
    just while it runs. A stop that is not refused ends every task of the engine and unloads the object. While the engine
    does not run, no program is linked, no task is there, and packets, samples and time leave it whole as it is. A start
    that succeeds finds empty counters, an empty ring and its own watched ports. And no start or stop changes the queue,
    its consumer or the counters of the hooks. -/
theorem lifecycle_consistent (hm : m.Orderly) (h : Host) :
    ((m.start h).1 = .error (.pipeline .alreadyRunning) ↔ m.engine.running = true) ∧
      (m.engine.running = true → (m.start h).2 = m) ∧
      (m.stop.1 = .error (.pipeline .notRunning) ↔ m.engine.running = false) ∧
      (m.engine.running = false → m.stop.2 = m) ∧
      (m.engine.polled.isSome ↔ m.engine.running = true) ∧
      (m.engine.running = true → ∃ m₁, m.stop = (.ok (), m₁) ∧ m.Stopped m₁) ∧
      (m.engine.running = false → m.Resting) ∧
      (∀ m₁, m.start h = (.ok (), m₁) → m.Restarted h m₁) ∧
      m.SameHooks (m.start h).2 ∧ m.SameHooks m.stop.2 := by
  refine ⟨m.start_refused_iff h, fun hr => by rw [start_of_running hr], m.stop_refused_iff,
    fun hr => by rw [stop_of_not_running hr], ⟨fun hpolled => ?_, hm.governed.shown⟩, hm.stopped,
    hm.resting, fun _ hs => hm.restarted hs, m.start_same h, m.stop_same⟩
  cases hrunning : m.engine.running with
  | true => rfl
  | false =>
    rw [(hm.reachable.tidy.idle hrunning).polled] at hpolled
    cases hpolled

/-- A sample that is left in the ring when the engine stops is not read while it rests, and is gone after a restart. -/
theorem lifecycle_consistent_restart :
    let m₀ := (Machine.create (.standard .capture)).perform (.holding .standard)
      [.start, .sample Frame.datagram.recorded]
    let m := m₀.stop.2
    let m₁ := (m.start (.holding .standard)).2
    m₀.engine.tasks.length = 2 ∧ m.engine.tasks = [] ∧ m.kernel.trace = m₀.kernel.trace ++ [.unloadObject] ∧
      m.kernel.maps.ring.records = [Frame.datagram.recorded] ∧ m.stop = (.error (.pipeline .notRunning), m) ∧
      (m.perform (.holding .standard) [.settle, .tick 5]).engine = m.engine ∧
      m₁.kernel.maps.ring.records = [] ∧ m₁.kernel.maps.watched = [8000] ∧ m₁.engine.polled.isSome ∧
      m₁.start (.holding .standard) = (.error (.pipeline .alreadyRunning), m₁) := by
  intro m₀ m m₁
  have hstarted : Machine.Orderly ((Machine.create (.standard .capture)).step (.holding .standard) .start).2 := by
    refine .step (.built (Engine.build_standard .capture)) _ _ fun _ e he => ?_
    rw [start_standard] at he
    cases he
  have hm₀ : m₀.Orderly := .step hstarted (.holding .standard) (.sample Frame.datagram.recorded) nofun
  have hm : m.Orderly := .step hm₀ (.holding .standard) .stop nofun
  have hs : m.start (.holding .standard) = (.ok (), m₁) := Prod.ext rfl rfl
  have hm₁ : m₁.Orderly := .step hm (.holding .standard) .start fun _ e he => by
    rw [hs] at he
    cases he
  obtain ⟨-, -, -, -, -, hstops, -⟩ := lifecycle_consistent hm₀ (.holding .standard)
  obtain ⟨-, -, hrefused, hsame, -, -, hresting, hrestarted, -⟩ := lifecycle_consistent hm (.holding .standard)
  obtain ⟨hrefused₁, hsame₁, -, -, hshown, -⟩ := lifecycle_consistent hm₁ (.holding .standard)
  obtain ⟨m', hstop, hstopped⟩ := hstops rfl
  have hm' : m = m' := congrArg Prod.snd hstop
  rw [← hm'] at hstopped
  have hfresh := hrestarted m₁ hs
  refine ⟨rfl, hstopped.tasks, hstopped.trace, rfl, Prod.ext (hrefused.mpr hstopped.running) (hsame hstopped.running),
    (hresting hstopped.running).undisturbed _ _ (by simp [MachineStep.Passive]), hfresh.records, ?_,
    hshown.mpr hfresh.running, Prod.ext (hrefused₁.mpr hfresh.running) (hsame₁ hfresh.running)⟩
  rw [hfresh.watched]
  rfl

end Machine
end FrameSentry
