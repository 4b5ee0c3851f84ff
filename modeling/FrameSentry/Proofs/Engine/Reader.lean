import FrameSentry.Proofs.Engine.Turns
import FrameSentry.Proofs.Hook.Capture

/-! The readers. When the machine settles, a reader that has not ended waits for its source and takes what there is. The
    reader of the ring in use forwards nothing if the ring is empty, and the record of a whole frame if that is all
    there is; the reader of the socket in use receives all that waits there. Whatever else is there to read stays empty,
    and a task that finds nothing does nothing. -/

namespace FrameSentry

/-! ### Readers -/

/-- The calls by which a reader waits for its source. -/
def Job.calls : Job → List KernelCall
  | .readRing _ => [.watchRing, .waitRing]
  | .readSocket _ => [.watchSocket, .waitSocket]
  | .pollCounters _ => []

/-- The source of a reader can be waited for. -/
def Kernel.Serves (k : Kernel) (job : Job) : Prop := ∀ c ∈ job.calls, k.fault? c = none

namespace Task
variable {t t' : Task} {job : Job} {k k' : Kernel}

/-- A task with this job that has not ended. -/
def Listens (job : Job) (t : Task) : Prop := t.job = job ∧ t.phase ≠ .finished

/-- A task with this job that waits. -/
def Waits (job : Job) (t : Task) : Prop := t.job = job ∧ ∃ wake, t.phase = .waiting wake

theorem Waits.listens (ht : t.Waits job) : t.Listens job := by
  obtain ⟨hjob, wake, hphase⟩ := ht
  exact ⟨hjob, by rw [hphase]; nofun⟩

/-- A task that reads nothing but what this job reads: it has ended, it polls, or it has this job. -/
def ReadsOnly (job : Job) (t : Task) : Prop :=
  t.phase = .finished ∨ (∃ interval, t.job = .pollCounters interval) ∨ t.job = job

/-- A task that finds nothing to read but in the ring in use: it reads nothing else, or it reads a ring of an earlier
    load that is empty. -/
def Spent (k : Kernel) (t : Task) : Prop :=
  t.ReadsOnly (.readRing k.loads) ∨
    ∃ load < k.loads, t.job = .readRing load ∧ (k.outlet load).ring.records = []

theorem ReadsOnly.continues (ht : t.ReadsOnly job) (h : t.Continues t') : t'.ReadsOnly job := by
  unfold ReadsOnly
  rw [h.job]
  exact ht.imp_left h.finished

theorem Spent.continues (ht : t.Spent k) (h : t.Continues t') : t'.Spent k := by
  rcases ht with ht | ⟨load, hload, hjob, hrecords⟩
  · exact Or.inl (ht.continues h)
  · exact Or.inr ⟨load, hload, h.job.trans hjob, hrecords⟩

/-- The ring in use does not matter to what is left in earlier ones. -/
theorem Spent.congr (ht : t.Spent k) (hloads : k'.loads = k.loads)
    (houtlet : ∀ load < k.loads, k'.outlet load = k.outlet load) : t.Spent k' := by
  unfold Spent
  rw [hloads]
  rcases ht with ht | ⟨load, hload, hjob, hrecords⟩
  · exact Or.inl ht
  · exact Or.inr ⟨load, hload, hjob, by rwa [houtlet load hload]⟩

end Task

/-- The hooks after everything was received that waited at a socket. -/
def HookSettings.receive (h : HookSettings) : List Incoming → HookState → HookState
  | [], s => s
  | .frame data :: rest, s => h.receive rest (h.onFrame (Machine.received data) s).2
  | .failure reason :: rest, s =>
    h.receive rest { s with
      telemetry := s.telemetry.log .loader .warn "packet socket recv failed" [("error", .text reason)] }

namespace Machine
variable {m m' : Machine} {t : Task} {job : Job} {load : Nat}

/-- What may be put into the queue, and what is in it. -/
def queue (m : Machine) : Queue := m.engine.session.hooks.queue

theorem opened_eq_false : m.opened load = false ↔ ∀ t ∈ m.engine.tasks, t.job = .readSocket load → t.phase = .finished := by
  simp [opened, List.any_eq_false]

theorem opened_of_listens (ht : t ∈ m.engine.tasks) (hlistens : t.Listens (.readSocket load)) : m.opened load = true := by
  rw [opened, List.any_eq_true]
  exact ⟨t, ht, by simpa [Task.Listens] using hlistens⟩

/-- Whatever earlier starts left of readers has ended, or reads a ring in which nothing is left. -/
def Quiet (m : Machine) : Prop := ∀ t ∈ m.engine.tasks, t.phase = .finished ∨
  ∃ load ≤ m.kernel.loads, t.job = .readRing load ∧ (m.kernel.outlet load).ring.records = []

theorem Ended.quiet (hended : m.Ended) : m.Quiet := fun t ht => Or.inl (hended t ht)

/-- When another object is loaded, these readers find nothing. -/
theorem Quiet.spent (hquiet : m.Quiet) {k : Kernel} (hloads : k.loads = m.kernel.loads + 1)
    (hformer : ∀ load ≤ m.kernel.loads, k.outlet load = m.kernel.outlet load) (ht : t ∈ m.engine.tasks) : t.Spent k := by
  rcases hquiet t ht with hphase | ⟨load, hload, hjob, hrecords⟩
  · exact Or.inl (Or.inl hphase)
  · exact Or.inr ⟨load, by omega, hjob, by rwa [hformer load hload]⟩

/-! ### Before they read -/

/-- A task that has not ended waits once it has begun, if its source can be waited for. -/
theorem beginTask_waits (hs : m.kernel.Serves job) (ht : t.Listens job) : (beginTask t m).1.Waits job := by
  obtain ⟨rfl, hphase⟩ := ht
  refine ⟨(beginTask_eq t m).2.job, ?_⟩
  unfold beginTask
  cases hp : t.phase with
  | fresh =>
    cases hjob : t.job with
    | readRing load => exact ⟨0, by simp [beginReader, hs .watchRing (by simp [hjob, Job.calls])]⟩
    | readSocket load => exact ⟨0, by simp [beginReader, hs .watchSocket (by simp [hjob, Job.calls])]⟩
    | pollCounters interval => exact ⟨m.clock, by simp⟩
  | waiting wake => exact ⟨wake, by simp [hp]⟩
  | finished => exact absurd hp hphase

theorem pollTask_waits (ht : t.Waits job) : (pollTask t m).1.Waits job := by
  unfold pollTask
  split
  · exact ⟨ht.1, _, rfl⟩
  · exact ht

/-- Before the tasks read, a reader that listens waits. -/
theorem prepared (hs : m.kernel.Serves job) : ∃ m' tasks, m.Tells m' ∧
    (m.eachTask beginTask).eachTask pollTask = m'.withTasks tasks ∧
      ((∃ t ∈ m.engine.tasks, t.Listens job) → ∃ t ∈ tasks, t.Waits job) ∧
        ∀ t' ∈ tasks, ∃ t ∈ m.engine.tasks, t.Continues t' := by
  refine prepared_turns (fun t m' htells hlistens => beginTask_waits ?_ hlistens) fun t m' hwaits => pollTask_waits hwaits
  obtain ⟨_, _, rfl⟩ := htells
  exact hs

theorem readTask_of_not_waits (ht : t.ReadsOnly job) (hn : ¬t.Waits job) : readTask t m = (t, m) := by
  unfold readTask
  rcases ht with hphase | ⟨interval, hjob⟩ | hjob
  · simp [hphase]
  · simp [hjob]
  · cases hphase : t.phase with
    | waiting wake => exact absurd ⟨hjob, wake, hphase⟩ hn
    | _ => simp

theorem awaitSource_of_none {c : KernelCall} (hc : m.kernel.fault? c = none) (message : String)
    (read : Task → Machine → Task × Machine) (t : Task) : awaitSource c message read t m = read t m := by
  simp [awaitSource, hc]

/-! ### The ring in use -/

theorem readTask_ring (hs : m.kernel.Serves (.readRing load)) (ht : t.Waits (.readRing load)) :
    readTask t m = drainRing load t m := by
  obtain ⟨hjob, wake, hphase⟩ := ht
  unfold readTask
  rw [hjob, hphase]
  exact awaitSource_of_none (hs .waitRing (by simp [Job.calls])) _ _ t

theorem drainRing_of_empty (hrecords : (m.kernel.outlet load).ring.records = []) (t : Task) :
    drainRing load t m = (t, m) := by
  simp [drainRing, hrecords, forwardRecords]

/-- With the ring in use empty, or with nobody to read it, a task finds nothing. -/
theorem readTask_of_spent (hs : m.kernel.Serves (.readRing m.kernel.loads)) (ht : t.Spent m.kernel)
    (hn : t.Waits (.readRing m.kernel.loads) → m.kernel.maps.ring.records = []) : readTask t m = (t, m) := by
  by_cases hwaits : t.Waits (.readRing m.kernel.loads)
  · rw [readTask_ring hs hwaits]
    exact drainRing_of_empty (by rw [Kernel.outlet_loads]; exact hn hwaits) t
  · rcases ht with ht | ⟨load, -, hjob, hrecords⟩
    · exact readTask_of_not_waits ht hwaits
    · by_cases hold : t.Waits (.readRing load)
      · have hs' : m.kernel.Serves (.readRing load) := hs
        rw [readTask_ring hs' hold]
        exact drainRing_of_empty hrecords t
      · exact readTask_of_not_waits (Or.inr (Or.inr hjob)) hold

/-- The machine with the only record of the ring in use forwarded. -/
def forwarded (m : Machine) (record : Bytes) : Machine :=
  m.taken m.kernel.loads
    { m.kernel.maps.ring with outstanding := m.kernel.maps.ring.outstanding - Ring.cost record.length, records := [] }
    (m.engine.hookSettings.forward record m.engine.session.hooks).2

theorem forwarded_ring (m : Machine) (record : Bytes) : (m.forwarded record).kernel.maps.ring =
    { m.kernel.maps.ring with outstanding := m.kernel.maps.ring.outstanding - Ring.cost record.length, records := [] } :=
  m.kernel.setOutlet_ring _

theorem loads_forwarded (m : Machine) (record : Bytes) : (m.forwarded record).kernel.loads = m.kernel.loads :=
  m.loads_taken _ _ _

theorem forwarded_spent (ht : t.Spent m.kernel) (record : Bytes) : t.Spent (m.forwarded record).kernel := by
  refine ht.congr (m.loads_forwarded record) fun load hload => ?_
  exact (Kernel.outlet_setOutlet (Nat.le_of_lt hload) _ _).trans (if_neg (Nat.ne_of_lt hload))

/-- Of several readers, the first that waits forwards the record; the others find nothing. -/
theorem turns_forwarded (hs : m.kernel.Serves (.readRing m.kernel.loads)) {frame : Frame} (hw : frame.Whole)
    (hq : m.queue.closed = false) (hrecords : m.kernel.maps.ring.records = [frame.recorded]) {tasks : List Task}
    (hspent : ∀ t ∈ tasks, t.Spent m.kernel) (ht : ∃ t ∈ tasks, t.Waits (.readRing m.kernel.loads)) :
    turns readTask tasks m = (tasks, m.forwarded frame.recorded) := by
  have hforward : m.engine.hookSettings.forward frame.recorded m.engine.session.hooks =
      (.ok (), (m.engine.hookSettings.forward frame.recorded m.engine.session.hooks).2) :=
    Prod.ext (m.engine.hookSettings.forward_fst hw (s := m.engine.session.hooks) hq) rfl
  have houtlet := m.kernel.outlet_loads
  have hnext : (m.kernel.outlet m.kernel.loads).ring.next? = some (frame.recorded, { m.kernel.maps.ring with
      outstanding := m.kernel.maps.ring.outstanding - Ring.cost frame.recorded.length, records := [] }) := by
    rw [houtlet]
    simp only [Ring.next?, hrecords]
  refine turns_once (Task.Waits (.readRing m.kernel.loads)) (fun t _ hwaits => ?_)
    (fun t ht hn => readTask_of_spent hs (hspent t ht) fun hwaits => absurd hwaits hn) (fun t ht => ?_) ht
  · rw [readTask_ring hs hwaits]
    unfold drainRing
    rw [houtlet, hrecords, List.length_singleton, forwardRecords_ok hnext hforward]
    rfl
  · have hs' : (m.forwarded frame.recorded).kernel.Serves (.readRing (m.forwarded frame.recorded).kernel.loads) := hs
    exact readTask_of_spent hs' (forwarded_spent (hspent t ht) _) fun _ => by rw [forwarded_ring]

/-- With nothing to read, settling only lets a reader that listens wait. -/
theorem settle_empty (hs : m.kernel.Serves (.readRing m.kernel.loads)) (hrecords : m.kernel.maps.ring.records = [])
    (hspent : ∀ t ∈ m.engine.tasks, t.Spent m.kernel) : ∃ m' tasks, m.Tells m' ∧ m.settle = m'.withTasks tasks ∧
      ((∃ t ∈ m.engine.tasks, t.Listens (.readRing m.kernel.loads)) →
        ∃ t ∈ tasks, t.Waits (.readRing m.kernel.loads)) ∧ ∀ t ∈ tasks, t.Spent m.kernel := by
  obtain ⟨_, tasks, ⟨t, polled, rfl⟩, hprepared, hwaits, hfrom⟩ := prepared hs
  have hspent' : ∀ t ∈ tasks, t.Spent m.kernel := fun t' ht' => by
    obtain ⟨t, ht, hcontinues⟩ := hfrom t' ht'
    exact (hspent t ht).continues hcontinues
  refine ⟨_, tasks, ⟨t, polled, rfl⟩, ?_, hwaits, hspent'⟩
  unfold settle
  rw [hprepared]
  have hs' : ((m.told t polled).withTasks tasks).kernel.Serves (.readRing m.kernel.loads) := hs
  exact eachTask_idle fun t ht => readTask_of_spent hs' (hspent' t ht) fun _ => hrecords

/-- The record of a whole frame that waits in the ring in use is forwarded. -/
theorem settle_forwarded (hs : m.kernel.Serves (.readRing m.kernel.loads)) {frame : Frame} (hw : frame.Whole)
    (hq : m.queue.closed = false) (hrecords : m.kernel.maps.ring.records = [frame.recorded])
    (hspent : ∀ t ∈ m.engine.tasks, t.Spent m.kernel)
    (ht : ∃ t ∈ m.engine.tasks, t.Listens (.readRing m.kernel.loads)) : ∃ m' tasks, m.Tells m' ∧
      m.settle = (m'.forwarded frame.recorded).withTasks tasks ∧
        (∃ t ∈ tasks, t.Waits (.readRing m.kernel.loads)) ∧ ∀ t ∈ tasks, t.Spent m.kernel := by
  obtain ⟨_, tasks, ⟨t, polled, rfl⟩, hprepared, hwaits, hfrom⟩ := prepared hs
  have hspent' : ∀ t ∈ tasks, t.Spent m.kernel := fun t' ht' => by
    obtain ⟨t, ht, hcontinues⟩ := hfrom t' ht'
    exact (hspent t ht).continues hcontinues
  refine ⟨_, tasks, ⟨t, polled, rfl⟩, ?_, hwaits ht, hspent'⟩
  have hturns := turns_forwarded (m := (m.told t polled).withTasks tasks) hs hw hq hrecords hspent' (hwaits ht)
  rw [settle_eq hprepared hturns]
  rfl

/-! ### The socket in use -/

theorem readTask_socket (hs : m.kernel.Serves (.readSocket load)) (ht : t.Waits (.readSocket load)) :
    readTask t m = drainSocket load t m := by
  obtain ⟨hjob, wake, hphase⟩ := ht
  unfold readTask
  rw [hjob, hphase]
  exact awaitSource_of_none (hs .waitSocket (by simp [Job.calls])) _ _ t

theorem observeFrames_eq (items : List Incoming) (m : Machine) : observeFrames items m =
    m.setHooks (m.engine.hookSettings.receive items m.engine.session.hooks) := by
  induction items generalizing m with
  | nil => rfl
  | cons item rest ih => cases item <;> exact ih _

/-- The machine with all that waits at the socket in use received. -/
def relayed (m : Machine) : Machine :=
  { m with kernel := m.kernel.setOutlet m.kernel.loads ⟨m.kernel.maps.ring, []⟩ }.setHooks
    (m.engine.hookSettings.receive m.kernel.inbox m.engine.session.hooks)

theorem loads_relayed (m : Machine) : m.relayed.kernel.loads = m.kernel.loads := Kernel.loads_withOutlets _ _

theorem relayed_inbox (m : Machine) : m.relayed.kernel.inbox = [] := m.kernel.setOutlet_inbox _

theorem drainSocket_eq (m : Machine) (t : Task) : drainSocket m.kernel.loads t m = (t, m.relayed) := by
  unfold drainSocket
  rw [Kernel.outlet_loads]
  exact congrArg (Prod.mk t) (observeFrames_eq _ _)

/-- With no frame at the socket there is nothing to receive. -/
theorem relayed_of_empty (hinbox : m.kernel.inbox = []) : m.relayed = m := by
  have hkernel := m.kernel.setOutlet_outlet m.kernel.loads
  rw [Kernel.outlet_loads, hinbox] at hkernel
  unfold relayed
  rw [hinbox, hkernel]
  rfl

/-- Of several readers of the socket, the first that waits receives everything. -/
theorem turns_relayed (hs : m.kernel.Serves (.readSocket m.kernel.loads)) {tasks : List Task}
    (hreads : ∀ t ∈ tasks, t.ReadsOnly (.readSocket m.kernel.loads))
    (ht : ∃ t ∈ tasks, t.Waits (.readSocket m.kernel.loads)) : turns readTask tasks m = (tasks, m.relayed) := by
  refine turns_once (Task.Waits (.readSocket m.kernel.loads)) (fun t _ hwaits => ?_)
    (fun t ht hn => readTask_of_not_waits (hreads t ht) hn) (fun t ht => ?_) ht
  · rw [readTask_socket hs hwaits, drainSocket_eq]
  · by_cases hwaits : t.Waits (.readSocket m.kernel.loads)
    · have hs' : m.relayed.kernel.Serves (.readSocket m.kernel.loads) := hs
      rw [readTask_socket hs' hwaits, ← m.loads_relayed, drainSocket_eq, relayed_of_empty m.relayed_inbox]
    · exact readTask_of_not_waits (hreads t ht) hwaits

/-- All that waits at the socket is received when the machine settles. -/
theorem settle_relayed (hs : m.kernel.Serves (.readSocket m.kernel.loads))
    (hreads : ∀ t ∈ m.engine.tasks, t.ReadsOnly (.readSocket m.kernel.loads))
    (ht : ∃ t ∈ m.engine.tasks, t.Listens (.readSocket m.kernel.loads)) : ∃ m' tasks, m.Tells m' ∧
      m.settle = m'.relayed.withTasks tasks ∧ (∃ t ∈ tasks, t.Waits (.readSocket m.kernel.loads)) ∧
        ∀ t ∈ tasks, t.ReadsOnly (.readSocket m.kernel.loads) := by
  obtain ⟨_, tasks, ⟨t, polled, rfl⟩, hprepared, hwaits, hfrom⟩ := prepared hs
  have hreads' : ∀ t ∈ tasks, t.ReadsOnly (.readSocket m.kernel.loads) := fun t' ht' => by
    obtain ⟨t, ht, hcontinues⟩ := hfrom t' ht'
    exact (hreads t ht).continues hcontinues
  refine ⟨_, tasks, ⟨t, polled, rfl⟩, ?_, hwaits ht, hreads'⟩
  have hturns := turns_relayed (m := (m.told t polled).withTasks tasks) hs hreads' (hwaits ht)
  rw [settle_eq hprepared hturns]
  rfl

end Machine
end FrameSentry
