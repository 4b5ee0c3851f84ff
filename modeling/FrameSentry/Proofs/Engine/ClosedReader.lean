import FrameSentry.Proofs.Daemon.Commits
import FrameSentry.Proofs.Engine.Reachable
import FrameSentry.Proofs.Hook.Forwarding

/-! The reader of the ring once the consumer is gone. A closed queue refuses a record as closed only if it could ever have
    held the part of it that is kept; a larger one is refused as too large, and the reader passes over it as over a
    sample that is no record. So the reader ends at the first record that the queue could have held. Until then and
    from there on nothing is put into the queue, and what comes after that record stays in the ring. -/

namespace FrameSentry

/-! ### A sample for a closed queue -/

/-- The sample is a record, and the queue is large enough for the part of it that is kept. -/
def Queue.Refuses (q : Queue) (limit : Nat) (sample : Bytes) : Prop :=
  Record.headerSize ≤ sample.length ∧ Record.charge sample limit ≤ q.capacity

instance (q : Queue) (limit : Nat) : DecidablePred (q.Refuses limit) := fun _ => inferInstanceAs (Decidable (_ ∧ _))

namespace HookSettings
variable {h : HookSettings} {s : HookState} {sample : Bytes}

theorem forward_refused (hclosed : s.queue.closed = true) (hrefuses : s.queue.Refuses h.maxCapture sample) :
    h.forward sample s = (.error .closed, s) := by
  obtain ⟨hn, hfits⟩ := hrefuses
  have hforwarded := h.forward_forwarded sample s
  generalize h.forward sample s = result at hforwarded ⊢
  cases hforwarded with
  | malformed hshort => exact absurd hn (Nat.not_le_of_lt hshort)
  | queued _ hopen =>
    rw [hclosed] at hopen
    cases hopen
  | full _ hshort =>
    rcases hshort with hlarge | ⟨hopen, -⟩
    · exact absurd hfits (Nat.not_le_of_lt hlarge)
    · rw [hclosed] at hopen
      cases hopen
  | refused => rfl

/-- What is no such record is only reported. -/
theorem forward_passed (hclosed : s.queue.closed = true) (hrefuses : ¬s.queue.Refuses h.maxCapture sample) :
    h.forward sample s = (.ok (), s.report h.sink
      (if sample.length < Record.headerSize then .malformedSample sample.length
        else .captureFailed (.bufferFull (Record.charge sample h.maxCapture) s.queue.available))) := by
  have hforwarded := h.forward_forwarded sample s
  generalize h.forward sample s = result at hforwarded ⊢
  cases hforwarded with
  | malformed hshort => rw [if_pos hshort]
  | queued _ hopen =>
    rw [hclosed] at hopen
    cases hopen
  | full hn => rw [if_neg (Nat.not_lt_of_le hn)]
  | refused hn _ hfits => exact absurd ⟨hn, hfits⟩ hrefuses

end HookSettings

theorem Queue.refuses_iff (q : Queue) (limit : Nat) (sample : Bytes) : q.Refuses limit sample ↔ 4 ≤ sample.length ∧
    4 + min sample.recordWord.toNat (min 65535 (min (max 1 (min limit 65535)) (sample.length - 4))) ≤ q.capacity := by
  rw [Refuses, Record.charge, Record.length_part_least]
  rfl

/-- A queue refuses all records if it is large enough for a frame of which as much is kept as the limit allows. -/
theorem Queue.refuses_all_iff (q : Queue) (limit : Nat) :
    (∀ sample, 4 ≤ sample.length → q.Refuses limit sample) ↔ 4 + max 1 (min limit 65535) ≤ q.capacity := by
  constructor
  · intro hall
    have hlength : (Bytes.ofRecordWord 65535 ++ List.replicate 65535 0).length = 65539 := by
      rw [List.length_append, List.length_replicate, Bytes.length_ofRecordWord]
    obtain ⟨-, hfits⟩ := (q.refuses_iff limit _).mp (hall (Bytes.ofRecordWord 65535 ++ List.replicate 65535 0)
      (by omega))
    rw [Bytes.recordWord_ofRecordWord, hlength, show (65535 : UInt32).toNat = 65535 from rfl] at hfits
    omega
  · intro hroom sample hn
    refine (q.refuses_iff limit sample).mpr ⟨hn, ?_⟩
    omega

/-! ### What readers leave -/

/-- What readers leave of samples: how many of them go on, and what is left. A sample that is refused ends the one that
    reads it; any other is passed over. -/
def readBy (refuses : Bytes → Prop) [DecidablePred refuses] : Nat → List Bytes → Nat × List Bytes
  | n, [] => (n, [])
  | 0, sample :: rest => (0, sample :: rest)
  | n + 1, sample :: rest => if refuses sample then readBy refuses n rest else readBy refuses (n + 1) rest

section
variable {refuses : Bytes → Prop} [DecidablePred refuses]

@[simp] theorem readBy_zero (samples : List Bytes) : readBy refuses 0 samples = (0, samples) := by
  cases samples <;> rfl

@[simp] theorem readBy_nil (n : Nat) : readBy refuses n [] = (n, []) := by
  cases n <;> rfl

/-- The readers that go on read what comes behind. -/
theorem readBy_append (n : Nat) (samples later : List Bytes) : readBy refuses n (samples ++ later) =
    readBy refuses (readBy refuses n samples).1 ((readBy refuses n samples).2 ++ later) := by
  induction samples generalizing n with
  | nil => simp
  | cons sample rest ih =>
    cases n with
    | zero => simp
    | succ n =>
      by_cases hrefuses : refuses sample
      · simp [readBy, hrefuses, ih]
      · simp [readBy, hrefuses, ih]

/-- Those that go on have left nothing to read. -/
theorem readBy_again (n : Nat) (samples : List Bytes) :
    readBy refuses (readBy refuses n samples).1 (readBy refuses n samples).2 = readBy refuses n samples := by
  have happend := @readBy_append refuses _ n samples []
  rw [List.append_nil, List.append_nil] at happend
  exact happend.symm

/-- Some readers come after the others. -/
theorem readBy_add (n n' : Nat) (samples : List Bytes) : readBy refuses (n + n') samples =
    ((readBy refuses n samples).1 + (readBy refuses n' (readBy refuses n samples).2).1,
      (readBy refuses n' (readBy refuses n samples).2).2) := by
  induction samples generalizing n with
  | nil => simp
  | cons sample rest ih =>
    cases n with
    | zero => simp
    | succ n =>
      by_cases hrefuses : refuses sample
      · simp [readBy, hrefuses, ih, Nat.succ_add]
      · simp only [readBy, hrefuses, if_false, Nat.succ_add]
        rw [Nat.add_right_comm, ih]

/-- A single reader ends at the first sample that is refused, or reads them all. -/
theorem readBy_one (samples : List Bytes) :
    (∃ passed last rest, samples = passed ++ last :: rest ∧ (∀ sample ∈ passed, ¬refuses sample) ∧ refuses last ∧
      readBy refuses 1 samples = (0, rest)) ∨
    ((∀ sample ∈ samples, ¬refuses sample) ∧ readBy refuses 1 samples = (1, [])) := by
  induction samples with
  | nil => exact Or.inr ⟨nofun, rfl⟩
  | cons sample rest ih =>
    by_cases hrefuses : refuses sample
    · exact Or.inl ⟨[], sample, rest, rfl, nofun, hrefuses, by simp [readBy, hrefuses]⟩
    · have hpassed : readBy refuses 1 (sample :: rest) = readBy refuses 1 rest := if_neg hrefuses
      rw [hpassed]
      rcases ih with ⟨passed, last, left, rfl, hnone, hlast, hread⟩ | ⟨hnone, hread⟩
      · exact Or.inl ⟨sample :: passed, last, left, rfl, List.forall_mem_cons.mpr ⟨hrefuses, hnone⟩, hlast, hread⟩
      · exact Or.inr ⟨List.forall_mem_cons.mpr ⟨hrefuses, hnone⟩, hread⟩

end

/-! ### One turn -/

/-- A reader of the ring of a load that takes samples when the machine settles, where it depends on its phase whether it
    is ready to. -/
def Task.takes (load : Nat) (ready : Phase → Bool) (t : Task) : Bool := t.job = .readRing load && ready t.phase

namespace Machine
variable {m m' : Machine} {q : Queue} {limit load : Nat} {t : Task}

/-- The samples that wait in the ring of a load. -/
def waiting (load : Nat) (m : Machine) : List Bytes := (m.kernel.outlet load).ring.records

/-- A reader in this phase takes samples when the machine settles: the ring can be waited for and, if it has not run yet,
    watched. -/
def ready (m : Machine) : Phase → Bool
  | .fresh => (m.kernel.fault? .watchRing).isNone && (m.kernel.fault? .waitRing).isNone
  | .waiting _ => (m.kernel.fault? .waitRing).isNone
  | .finished => false

/-- How many readers of the ring of a load take samples when the machine settles. -/
def readers (load : Nat) (m : Machine) : Nat := m.engine.tasks.countP (·.takes load m.ready)

/-- The consumer is gone and this is the queue that it left. -/
structure Left (q : Queue) (limit : Nat) (m : Machine) : Prop where
  queue : m.queue = q
  closed : q.closed = true
  limit : m.engine.settings.capture.maxCapture = limit

theorem Left.works (hl : Left q limit m) (hworks : m.Works m') (hqueue : m'.queue = m.queue) : Left q limit m' := by
  obtain ⟨_, _, _, rfl⟩ := hworks
  exact ⟨hqueue.trans hl.queue, hl.closed, hl.limit⟩

theorem taken_waiting {n : Nat} (hload : load ≤ m.kernel.loads) (ring : Ring) (hooks : HookState) :
    (m.taken n ring hooks).waiting load = if load = n then ring.records else m.waiting load := by
  have houtlet : (m.taken n ring hooks).kernel.outlet load =
      if load = n then { m.kernel.outlet n with ring } else m.kernel.outlet load := Kernel.outlet_setOutlet hload n _
  unfold waiting
  rw [houtlet]
  split <;> rfl

theorem forwardRecords_left (hl : Left q limit m) (hload : load ≤ m.kernel.loads) :
    (cond (forwardRecords load (m.waiting load).length m).1 0 1,
        (forwardRecords load (m.waiting load).length m).2.waiting load) =
      readBy (q.Refuses limit) 1 (m.waiting load) := by
  generalize hn : (m.waiting load).length = n
  induction n generalizing m with
  | zero =>
    have hempty : m.waiting load = [] := List.length_eq_zero_iff.mp hn
    rw [hempty, readBy_nil, ← hempty]
    rfl
  | succ n ih =>
    obtain ⟨sample, rest, hwaiting⟩ := List.exists_cons_of_length_eq_add_one hn
    have hlength : rest.length = n := by simpa [hwaiting] using hn
    obtain ⟨ring, hnext, hrest⟩ : ∃ ring : Ring,
        (m.kernel.outlet load).ring.next? = some (sample, ring) ∧ ring.records = rest := by
      simp only [Ring.next?, show (m.kernel.outlet load).ring.records = sample :: rest from hwaiting]
      exact ⟨_, rfl, rfl⟩
    have hclosed : m.engine.session.hooks.queue.closed = true := (congrArg Queue.closed hl.queue).trans hl.closed
    have hsame : m.engine.session.hooks.queue.Refuses m.engine.hookSettings.maxCapture = q.Refuses limit := by
      rw [← hl.queue, ← hl.limit]
      rfl
    have htaken : ∀ hooks, (m.taken load ring hooks).waiting load = rest := fun hooks => by
      rw [taken_waiting hload, if_pos rfl, hrest]
    rw [hwaiting]
    by_cases hrefuses : q.Refuses limit sample
    · rw [forwardRecords_error hnext (HookSettings.forward_refused hclosed (by rwa [hsame]))]
      simp only [readBy, hrefuses, if_true, readBy_zero]
      exact congrArg (Prod.mk 0) (htaken _)
    · rw [forwardRecords_ok hnext (HookSettings.forward_passed hclosed (by rwa [hsame]))]
      generalize hnew : m.taken load ring _ = m₁
      have hl₁ : Left q limit m₁ := by
        rw [← hnew]
        exact hl.works (.of_reads (m.taken_reads load ring _)) (HookState.report_queue _ _ _)
      have hload₁ : load ≤ m₁.kernel.loads := by
        rw [← hnew, loads_taken]
        exact hload
      have hwaiting₁ : m₁.waiting load = rest := by
        rw [← hnew]
        exact htaken _
      rw [ih hl₁ hload₁ (hwaiting₁ ▸ hlength), hwaiting₁]
      simp only [readBy, hrefuses, if_false]

/-- A reader leaves the rings of other loads. -/
theorem forwardRecords_waiting {n count : Nat} (hload : load ≤ m.kernel.loads) (hn : load ≠ n) :
    (forwardRecords n count m).2.waiting load = m.waiting load := by
  induction count generalizing m with
  | zero => rfl
  | succ count ih =>
    have htaken : ∀ ring hooks, (m.taken n ring hooks).waiting load = m.waiting load := fun ring hooks => by
      rw [taken_waiting hload, if_neg hn]
    rcases forwardRecords_cases n count m with ⟨-, h⟩ | ⟨sample, ring, hooks, -, ⟨-, h⟩ | ⟨e, -, h⟩⟩
    · rw [h]
    · have hload' : load ≤ (m.taken n ring hooks).kernel.loads := by rwa [loads_taken]
      rw [h, ih hload', htaken]
    · rw [h]
      exact htaken ring hooks

theorem observeFrames_waiting (items : List Incoming) (m : Machine) :
    (observeFrames items m).waiting load = m.waiting load := by
  induction items generalizing m with
  | nil => rfl
  | cons item rest ih => cases item <;> exact ih _

/-- A reader of a socket leaves all rings. -/
theorem drainSocket_waiting (hload : load ≤ m.kernel.loads) (n : Nat) (t : Task) :
    (drainSocket n t m).2.waiting load = m.waiting load := by
  refine (observeFrames_waiting _ _).trans ?_
  show ((m.kernel.setOutlet n { m.kernel.outlet n with inbox := [] }).outlet load).ring.records = _
  rw [Kernel.outlet_setOutlet hload]
  split
  · rename_i hn
    rw [waiting, hn]
  · rfl

theorem readTask_left (hl : Left q limit m) (t : Task) : Left q limit (readTask t m).2 := by
  refine hl.works (.of_reads (readTask_reads t m).1) ?_
  exact (readTask_receives t m).queue.eq_of_closed ((congrArg Queue.closed hl.queue).trans hl.closed)

/-- A task that does not take samples from a ring leaves it. -/
theorem readTask_elsewhere (hload : load ≤ m.kernel.loads) (ht : t.takes load m.ready = false) :
    (readTask t m).1.takes load m.ready = false ∧ (readTask t m).2.waiting load = m.waiting load := by
  unfold readTask
  split
  · rename_i n _ hjob hwaiting
    rcases awaitSource_cases .waitRing "ring buffer poll failed" (drainRing n) t m with ⟨hnone, h⟩ | ⟨reason, -, h⟩
    · have hn : load ≠ n := by
        rintro rfl
        simp [Task.takes, hjob, hwaiting, ready, hnone] at ht
      rw [h]
      refine ⟨?_, forwardRecords_waiting hload hn⟩
      have hother : (drainRing n t m).1.job ≠ .readRing load := by
        rw [(drainRing_reads n t m).2.job, hjob]
        exact fun hsame => hn (Job.readRing.inj hsame).symm
      simp [Task.takes, hother]
    · rw [h]
      exact ⟨by simp [Task.takes, ready], rfl⟩
  · rename_i n _ hjob _
    rcases awaitSource_cases .waitSocket "packet socket poll failed" (drainSocket n) t m with ⟨-, h⟩ | ⟨reason, -, h⟩
    · rw [h]
      exact ⟨by simp [drainSocket, Task.takes, hjob], drainSocket_waiting hload n t⟩
    · rw [h]
      exact ⟨by simp [Task.takes, ready], rfl⟩
  · exact ⟨ht, rfl⟩

/-- A task that has begun reads as one reader of the ring does, or as none. -/
theorem readTask_readBy (hl : Left q limit m) (hload : load ≤ m.kernel.loads) (hphase : t.phase ≠ .fresh) :
    (cond ((readTask t m).1.takes load m.ready) 1 0, (readTask t m).2.waiting load) =
      readBy (q.Refuses limit) (cond (t.takes load m.ready) 1 0) (m.waiting load) := by
  cases ht : t.takes load m.ready with
  | false =>
    obtain ⟨hnone, hwaiting⟩ := readTask_elsewhere hload ht
    rw [hnone, hwaiting]
    exact (readBy_zero _).symm
  | true =>
    obtain ⟨job, phase, owned⟩ := t
    simp only [Task.takes, Bool.and_eq_true, decide_eq_true_eq] at ht
    obtain ⟨rfl, hready⟩ := ht
    cases phase with
    | fresh => exact absurd rfl hphase
    | finished => cases hready
    | waiting wake =>
      have hnone : m.kernel.fault? .waitRing = none := Option.isNone_iff_eq_none.mp hready
      have hread := forwardRecords_left hl hload
      have hdrain : readTask ⟨.readRing load, .waiting wake, owned⟩ m =
          drainRing load ⟨.readRing load, .waiting wake, owned⟩ m := awaitSource_of_none hnone _ _ _
      rw [hdrain]
      show (cond (Task.takes load m.ready (if (forwardRecords load (m.waiting load).length m).1 then _ else _)) 1 0,
        (forwardRecords load (m.waiting load).length m).2.waiting load) = readBy (q.Refuses limit) 1 (m.waiting load)
      rw [← hread]
      cases (forwardRecords load (m.waiting load).length m).1 <;> simp [Task.takes, ready, hnone]

/-! ### Settling -/

/-- Tasks that have begun read as so many readers do. -/
theorem turns_readBy {tasks : List Task} (hl : Left q limit m) (hload : load ≤ m.kernel.loads)
    (hbegun : ∀ t ∈ tasks, t.phase ≠ .fresh) :
    ((turns readTask tasks m).1.countP (·.takes load m.ready), (turns readTask tasks m).2.waiting load) =
      readBy (q.Refuses limit) (tasks.countP (·.takes load m.ready)) (m.waiting load) := by
  induction tasks generalizing m with
  | nil => exact (readBy_zero _).symm
  | cons t rest ih =>
    have hone := readTask_readBy hl hload (hbegun t List.mem_cons_self)
    have hreads := (readTask_reads t m).1
    have hready : (readTask t m).2.ready = m.ready := by
      obtain ⟨_, _, h⟩ := hreads
      rw [h]
      rfl
    have hload' : load ≤ (readTask t m).2.kernel.loads :=
      Nat.le_trans hload (Nat.le_of_eq (Works.of_reads hreads).loads.symm)
    have hothers := ih (readTask_left hl t) hload' fun u hu => hbegun u (List.mem_cons_of_mem _ hu)
    rw [hready] at hothers
    have hcount : ∀ (u : Task) (tasks : List Task), (u :: tasks).countP (·.takes load m.ready) =
        cond (u.takes load m.ready) 1 0 + tasks.countP (·.takes load m.ready) := by
      intro u tasks
      rw [List.countP_cons, Nat.add_comm, Bool.cond_eq_ite]
    rw [hcount, readBy_add, ← hone, ← hothers]
    exact congrArg (·, _) (hcount _ _)

theorem beginTask_takes (t : Task) (m : Machine) :
    (beginTask t m).1.phase ≠ .fresh ∧ ∀ load, (beginTask t m).1.takes load m.ready = t.takes load m.ready := by
  obtain ⟨job, phase, owned⟩ := t
  cases phase with
  | waiting wake => exact ⟨nofun, fun _ => rfl⟩
  | finished => exact ⟨nofun, fun _ => rfl⟩
  | fresh =>
    cases job with
    | pollCounters interval => exact ⟨nofun, fun _ => rfl⟩
    | readRing n =>
      cases hfault : m.kernel.fault? .watchRing <;>
        simp [beginTask, beginReader, Task.takes, ready, hfault]
    | readSocket n =>
      cases hfault : m.kernel.fault? .watchSocket <;>
        simp [beginTask, beginReader, Task.takes, hfault]

theorem pollTask_takes (t : Task) (m : Machine) :
    (t.phase ≠ .fresh → (pollTask t m).1.phase ≠ .fresh) ∧
      ∀ load ready, (pollTask t m).1.takes load ready = t.takes load ready := by
  unfold pollTask
  split
  · rename_i hjob _
    refine ⟨nofun, fun load ready => ?_⟩
    simp [Task.takes, hjob]
  · exact ⟨id, fun _ _ => rfl⟩

/-- As many readers take samples as before, the kernel is the same, and every task has begun. -/
structure Prepares (m m' : Machine) : Prop where
  readers : ∀ load, m'.readers load = m.readers load
  kernel : m'.kernel = m.kernel
  left : ∀ q limit, Left q limit m → Left q limit m'
  begun : ∀ t ∈ m'.engine.tasks, t.phase ≠ .fresh

theorem eachTask_prepares {turn : Task → Machine → Task × Machine} (htells : ∀ t m', Tells m' (turn t m').2)
    (htakes : ∀ t m' load, m'.ready = m.ready → (turn t m').1.takes load m.ready = t.takes load m.ready)
    (hbegun : ∀ t ∈ m.engine.tasks, ∀ m', (turn t m').1.phase ≠ .fresh) : m.Prepares (m.eachTask turn) := by
  obtain ⟨⟨told, polled, htold⟩, -, hphases⟩ := turns_induct (I := m.Tells) (R := fun _ t' => t'.phase ≠ .fresh)
    m.engine.tasks (fun t ht m' h => ⟨h.trans (htells t m'), hbegun t ht m'⟩) (.refl m)
  have hcount : ∀ load, (turns turn m.engine.tasks m).1.countP (·.takes load m.ready) = m.readers load := fun load =>
    turns_countP (I := m.Tells)
      (fun t _ m' h => ⟨h.trans (htells t m'), htakes t m' load (by obtain ⟨_, _, rfl⟩ := h; rfl)⟩) (.refl m)
  have hm : m.eachTask turn = (m.told told polled).withTasks (turns turn m.engine.tasks m).1 := by
    rw [← htold]
    rfl
  rw [hm]
  refine ⟨hcount, rfl, fun _ _ hl => ⟨hl.queue, hl.closed, hl.limit⟩, fun t ht => ?_⟩
  obtain ⟨_, -, hphase⟩ := hphases t ht
  exact hphase

theorem prepares (m : Machine) : m.Prepares ((m.eachTask beginTask).eachTask pollTask) := by
  have hbegin : m.Prepares (m.eachTask beginTask) :=
    eachTask_prepares beginTask_tells (fun t m' load h => h ▸ (beginTask_takes t m').2 load)
      fun t _ m' => (beginTask_takes t m').1
  have hpoll : (m.eachTask beginTask).Prepares ((m.eachTask beginTask).eachTask pollTask) :=
    eachTask_prepares (fun t m' => (pollTask_tells t m').1) (fun t m' load _ => (pollTask_takes t m').2 load _)
      fun t ht m' => (pollTask_takes t m').1 (hbegin.begun t ht)
  exact ⟨fun load => (hpoll.readers load).trans (hbegin.readers load), hpoll.kernel.trans hbegin.kernel,
    fun q limit hl => hpoll.left q limit (hbegin.left q limit hl), hpoll.begun⟩

theorem settle_left (hl : Left q limit m) : Left q limit m.settle ∧ ∀ load ≤ m.kernel.loads,
    (m.settle.readers load, m.settle.waiting load) = readBy (q.Refuses limit) (m.readers load) (m.waiting load) := by
  obtain ⟨hreaders, hkernel, hleft, hbegun⟩ := m.prepares
  have hl := hleft q limit hl
  have hwaiting : ∀ load, ((m.eachTask beginTask).eachTask pollTask).waiting load = m.waiting load := fun load =>
    congrArg (fun k => (k.outlet load).ring.records) hkernel
  rw [← hkernel]
  unfold settle
  generalize (m.eachTask beginTask).eachTask pollTask = m' at hreaders hwaiting hl hbegun ⊢
  have hturn : ∀ t ∈ m'.engine.tasks, ∀ m'', (Left q limit m'' ∧ m''.ready = m'.ready) →
      (Left q limit (readTask t m'').2 ∧ (readTask t m'').2.ready = m'.ready) ∧ True := by
    rintro t - m'' ⟨h, hready⟩
    refine ⟨⟨readTask_left h t, ?_⟩, trivial⟩
    obtain ⟨⟨_, _, hreads⟩, -⟩ := readTask_reads t m''
    rw [hreads]
    exact hready
  obtain ⟨⟨hl', hready⟩, -, -⟩ := turns_induct (R := fun _ _ => True) m'.engine.tasks hturn ⟨hl, rfl⟩
  refine ⟨⟨hl'.queue, hl'.closed, hl'.limit⟩, fun load hload => ?_⟩
  have hread := turns_readBy hl hload hbegun
  have hreaders' : (m'.eachTask readTask).readers load =
      (turns readTask m'.engine.tasks m').1.countP (·.takes load m'.ready) := by
    rw [← hready]
    rfl
  rw [← hreaders load, ← hwaiting load, hreaders', readers, ← hread]
  rfl

end Machine

/-! ### Arrivals -/

/-- What happens to a machine while samples arrive: they are put into the ring, tasks run and time passes. -/
def MachineStep.Arrival : MachineStep → Prop
  | .sample _ | .settle | .tick _ => True
  | _ => False

/-- The samples that arrive. -/
def MachineStep.arrived : MachineStep → List Bytes
  | .sample bytes => [bytes]
  | _ => []

namespace Machine
variable {m : Machine} {q : Queue} {limit load n : Nat} {came : List Bytes}

/-- What arrives in the ring of a load: all of it, if the load is the last. -/
def arrivals (load : Nat) (m : Machine) (steps : List MachineStep) : List Bytes :=
  if load = m.kernel.loads then steps.flatMap MachineStep.arrived else []

/-- Of all samples that came to the ring of a load the readers have left what `n` readers leave. -/
structure Follows (q : Queue) (limit load n : Nat) (came : List Bytes) (m : Machine) : Prop where
  left : Left q limit m
  loaded : load ≤ m.kernel.loads
  read : readBy (q.Refuses limit) (m.readers load) (m.waiting load) = readBy (q.Refuses limit) n came

theorem sample_waiting (hload : load ≤ m.kernel.loads) (bytes : Bytes) :
    ({ m with kernel := m.kernel.sample bytes } : Machine).waiting load =
      m.waiting load ++ m.arrivals load [.sample bytes] := by
  unfold arrivals waiting
  split
  · rename_i hlast
    have hin : (m.kernel.sample bytes).outlet load = ⟨m.kernel.maps.ring.push bytes, m.kernel.inbox⟩ := by
      rw [hlast]
      exact (m.kernel.sample bytes).outlet_loads
    rw [hin, hlast, Kernel.outlet_loads]
    rfl
  · rename_i hearlier
    have hsame : (m.kernel.sample bytes).outlet load = m.kernel.outlet load :=
      Kernel.outlet_of_former rfl (Nat.lt_of_le_of_ne hload hearlier)
    rw [hsame, List.append_nil]

namespace Follows

theorem settle (hm : Follows q limit load n came m) : Follows q limit load n came m.settle := by
  obtain ⟨hleft, hread⟩ := settle_left hm.left
  obtain ⟨hreaders, hwaiting⟩ := Prod.ext_iff.mp (hread load hm.loaded)
  refine ⟨hleft, Nat.le_trans hm.loaded (Nat.le_of_eq (Settles.settle m).loads.symm), ?_⟩
  rw [show m.settle.readers load = _ from hreaders, show m.settle.waiting load = _ from hwaiting, readBy_again, hm.read]

theorem pass (hm : Follows q limit load n came m) (seconds : Nat) : Follows q limit load n came (m.pass seconds) :=
  ⟨⟨hm.left.queue, hm.left.closed, hm.left.limit⟩, hm.loaded, hm.read⟩

theorem step (hm : Follows q limit load n came m) (host : Host) {s : MachineStep} (hs : s.Arrival) :
    Follows q limit load n (came ++ m.arrivals load [s]) (m.step host s).2 ∧
      (m.step host s).2.kernel.loads = m.kernel.loads := by
  have hnone : ∀ {m' : Machine}, s.arrived = [] → Follows q limit load n came m' →
      Follows q limit load n (came ++ m.arrivals load [s]) m' := by
    intro m' harrived hm'
    have harrivals : m.arrivals load [s] = [] := by simp [arrivals, harrived]
    rwa [harrivals, List.append_nil]
  cases s with
  | sample bytes =>
    refine ⟨⟨⟨hm.left.queue, hm.left.closed, hm.left.limit⟩, hm.loaded, ?_⟩, rfl⟩
    show readBy _ (m.readers load) (({ m with kernel := m.kernel.sample bytes } : Machine).waiting load) = _
    rw [sample_waiting hm.loaded, readBy_append, hm.read, ← readBy_append]
  | settle => exact ⟨hnone rfl hm.settle, (Settles.settle m).loads⟩
  | tick seconds =>
    exact ⟨hnone rfl (hm.settle.pass seconds).settle, (Settles.settle _).loads.trans (Settles.settle m).loads⟩
  | _ => exact hs.elim

theorem perform (hm : Follows q limit load n came m) (host : Host) {steps : List MachineStep}
    (hs : ∀ s ∈ steps, s.Arrival) : Follows q limit load n (came ++ m.arrivals load steps) (m.perform host steps) := by
  induction steps generalizing m came with
  | nil =>
    have harrivals : m.arrivals load [] = [] := by simp [arrivals]
    rw [harrivals, List.append_nil]
    exact hm
  | cons s rest ih =>
    obtain ⟨hstep, hloads⟩ := hm.step host (hs s List.mem_cons_self)
    have hrest := ih hstep fun s' hs' => hs s' (List.mem_cons_of_mem _ hs')
    have harrivals : m.arrivals load (s :: rest) =
        m.arrivals load [s] ++ (m.step host s).2.arrivals load rest := by
      unfold arrivals
      rw [hloads]
      split <;> simp
    rw [harrivals, ← List.append_assoc]
    exact hrest

end Follows

/-- A reader ends once the consumer is gone, but only at a record that the queue could ever have held. Whatever the
    capacity and the limit on captures are, and in whatever state the producers and the consumer have left the closed
    queue: of a sample of at least four bytes let `k` be the bytes that are kept. If the capacity is at least `4 + k` the
    forwarder answers that the queue is closed. Otherwise it reports that the queue is full, and answers that all is well,
    as it does for a sample of fewer than four bytes. So it refuses all records exactly if the capacity is at least four
    bytes more than the limit, which is taken as no less than 1 and no more than 65535. Nothing gets into the queue while
    samples arrive. Of those in the ring of a load its readers leave what is behind the last at which one of them ended:
    a single reader ends at the first sample that the forwarder refuses, and if there is none it reads them all and
    waits. -/
theorem readers_end_at_refused {capacity : Nat} {producer : String} {steps : List ExchangeStep}
    (hends : Exchange.Ends steps) (limit : Nat) :
    let q := ((Exchange.create capacity producer).perform steps).queue
    (∀ (h : HookSettings) (s : HookState) (sample : Bytes), h.maxCapture = limit → s.queue = q →
      let k := min sample.recordWord.toNat (min 65535 (min (max 1 (min limit 65535)) (sample.length - 4)))
      (q.Refuses limit sample ↔ 4 ≤ sample.length ∧ 4 + k ≤ q.capacity) ∧
        h.forward sample s =
          if q.Refuses limit sample then (.error .closed, s)
          else if sample.length < 4 then (.ok (), s.report h.sink (.malformedSample sample.length))
          else (.ok (), s.report h.sink (.captureFailed (.bufferFull (4 + k) q.available)))) ∧
      ((∀ sample, 4 ≤ sample.length → q.Refuses limit sample) ↔ 4 + max 1 (min limit 65535) ≤ q.capacity) ∧
      ∀ (m : Machine) (host : Host) (steps : List MachineStep), m.queue = q →
        m.engine.settings.capture.maxCapture = limit → (∀ s ∈ steps, s.Arrival) →
        let m' := m.perform host (steps ++ [.settle])
        m'.queue = q ∧ ∀ load ≤ m.kernel.loads,
          let came := m.waiting load ++ m.arrivals load steps
          (m'.readers load, m'.waiting load) = readBy (q.Refuses limit) (m.readers load) came ∧
            (m.readers load = 1 →
              (m'.readers load = 0 ∧ ∃ passed last, came = passed ++ last :: m'.waiting load ∧
                (∀ sample ∈ passed, ¬q.Refuses limit sample) ∧ q.Refuses limit last) ∨
              (m'.readers load = 1 ∧ m'.waiting load = [] ∧ ∀ sample ∈ came, ¬q.Refuses limit sample)) := by
  intro q
  have hclosed : q.closed = true := (Exchange.closed_perform capacity producer steps).mpr hends
  refine ⟨?_, q.refuses_all_iff limit, ?_⟩
  · rintro h s sample rfl hs k
    refine ⟨q.refuses_iff h.maxCapture sample, ?_⟩
    rw [← hs] at hclosed ⊢
    by_cases hrefuses : s.queue.Refuses h.maxCapture sample
    · rw [if_pos hrefuses, HookSettings.forward_refused hclosed hrefuses]
    · rw [if_neg hrefuses, HookSettings.forward_passed hclosed hrefuses, Record.charge, Record.length_part_least]
      exact apply_ite (fun d => (Except.ok (), s.report h.sink d)) _ _ _
  · intro m host steps hqueue hlimit hsteps m'
    have hfollows : ∀ load ≤ m.kernel.loads, Follows q limit load (m.readers load) (m.waiting load) m :=
      fun load hload => ⟨⟨hqueue, hclosed, hlimit⟩, hload, rfl⟩
    have hm' : m' = (m.perform host steps).settle := List.foldl_append
    rw [hm']
    refine ⟨(((hfollows 0 (Nat.zero_le _)).perform host hsteps).settle).left.queue, fun load hload => ?_⟩
    intro came
    have harrived := (hfollows load hload).perform host hsteps
    have hread := ((settle_left harrived.left).2 load harrived.loaded).trans harrived.read
    refine ⟨hread, fun hone => ?_⟩
    rw [hone] at hread
    rcases @readBy_one (q.Refuses limit) _ came with ⟨passed, last, rest, hcame, hpassed, hlast, h⟩ | ⟨hnone, h⟩
    · obtain ⟨hreaders, hwaiting⟩ := Prod.ext_iff.mp (hread.trans h)
      refine Or.inl ⟨hreaders, passed, last, ?_, hpassed, hlast⟩
      rw [show (m.perform host steps).settle.waiting load = rest from hwaiting]
      exact hcame
    · obtain ⟨hreaders, hwaiting⟩ := Prod.ext_iff.mp (hread.trans h)
      exact Or.inr ⟨hreaders, hwaiting, hnone⟩

/-- A standard engine whose consumer closed the queue. Its reader passes over three bytes, ends at a record of an empty
    frame, and leaves the next one in the ring. -/
theorem readers_end_at_refused_record :
    let host := Host.holding .standard
    let m := (Machine.create (.standard .capture)).perform host [.start, .consume .close]
    let m' := m.perform host ([.sample [1, 2, 3], .sample [0, 0, 0, 0], .sample [1, 0, 0, 0, 7]] ++ [.settle])
    m'.queue = m.queue ∧ m'.queue.events = [] ∧ (m'.readers 1, m'.waiting 1) = (0, [[1, 0, 0, 0, 7]]) := by
  intro host m m'
  have hends : Exchange.Ends [.consumer .close] := by decide
  obtain ⟨-, -, harrivals⟩ := @readers_end_at_refused 262144 "main" _ hends 65535
  obtain ⟨hqueue, hreads⟩ := harrivals m host [.sample [1, 2, 3], .sample [0, 0, 0, 0], .sample [1, 0, 0, 0, 7]] rfl rfl
    (by simp [MachineStep.Arrival])
  have hread := (hreads 1 (by decide)).1
  have hreaders : m.readers 1 = 1 := by decide
  have hwaiting : m.waiting 1 = [] := by decide
  have harrived : m.arrivals 1 [.sample [1, 2, 3], .sample [0, 0, 0, 0], .sample [1, 0, 0, 0, 7]] =
      [[1, 2, 3], [0, 0, 0, 0], [1, 0, 0, 0, 7]] := by decide
  rw [hreaders, hwaiting, harrived] at hread
  exact ⟨hqueue, congrArg Queue.events hqueue, hread.trans (by decide)⟩

/-- On a queue of sixteen bytes that the consumer has closed, a record of which twenty bytes are kept is answered as if
    all were well, and the reader goes on; a record of four bytes ends it. -/
theorem reader_outlives_consumer :
    let host := Host.holding .standard
    let engine : Engine := { Engine.standard .capture with session := .create 16 }
    let m := (Machine.create engine).perform host [.start, .consume .close]
    let large := Bytes.ofRecordWord 20 ++ List.replicate 20 7
    let small := Bytes.ofRecordWord 4 ++ List.replicate 4 7
    let m₁ := m.perform host [.sample large, .settle]
    let m₂ := m₁.perform host [.sample small, .settle]
    m.queue.closed = true ∧
      (m.engine.hookSettings.forward large m.engine.session.hooks).1 = .ok () ∧
      (m₁.readers 1, m₁.waiting 1) = (1, []) ∧
      (m.engine.hookSettings.forward small m.engine.session.hooks).1 = .error .closed ∧
      (m₂.readers 1, m₂.waiting 1) = (0, []) := by
  decide

end Machine
end FrameSentry
