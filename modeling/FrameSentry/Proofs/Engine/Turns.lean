import FrameSentry.Engine.Tasks
import FrameSentry.Proofs.Engine.Outlets

/-! What a settling machine does. Each task takes its turn three times: it begins, it polls, it reads. A turn
    never changes what a task is for, who owns it, or the other tasks; to begin and to poll changes the machine
    only in what is told and what was polled last, and to read only in the hooks and in what waits for readers.
    A task that has ended does nothing, and never goes on. -/

namespace FrameSentry

/-- A task goes on as the same one: with its job and its owner, and if it has ended it stays so. -/
structure Task.Continues (t t' : Task) : Prop where
  job : t'.job = t.job
  owned : t'.owned = t.owned
  finished : t.phase = .finished → t'.phase = .finished

theorem Task.Continues.refl (t : Task) : t.Continues t := ⟨rfl, rfl, id⟩

theorem Task.Continues.trans {t t' t'' : Task} (h₁ : t.Continues t') (h₂ : t'.Continues t'') : t.Continues t'' :=
  ⟨h₂.job.trans h₁.job, h₂.owned.trans h₁.owned, fun h => h₂.finished (h₁.finished h)⟩

namespace Machine
variable {m m' : Machine}

/-- The machine with other hooks, other counters polled last and other outlets. -/
def worked (m : Machine) (hooks : HookState) (polled : Option Counters) (outlets : Nat → Outlet) : Machine :=
  { m with
    engine := { m.engine with session := { m.engine.session with hooks }, polled }
    kernel := m.kernel.withOutlets outlets }

/-- All that tasks change besides themselves. -/
def Works (m m' : Machine) : Prop := ∃ hooks polled outlets, m' = m.worked hooks polled outlets

/-- All that they change except when they poll. -/
def Reads (m m' : Machine) : Prop := ∃ hooks outlets, m' = m.worked hooks m.engine.polled outlets

/-- The machine with other telemetry and other counters polled last. -/
def told (m : Machine) (t : Telemetry) (polled : Option Counters) : Machine :=
  (m.setTelemetry t).setEngine { (m.setTelemetry t).engine with polled }

/-- All that tasks change before they read. -/
def Tells (m m' : Machine) : Prop := ∃ t polled, m' = m.told t polled

/-- The machine with other tasks. -/
def withTasks (m : Machine) (tasks : List Task) : Machine := m.setEngine { m.engine with tasks }

/-- No task goes on. -/
def Ended (m : Machine) : Prop := ∀ t ∈ m.engine.tasks, t.phase = .finished

/-- To change the hooks is to leave the outlets as they are. -/
theorem worked_outlet (m : Machine) (hooks : HookState) :
    m.worked hooks m.engine.polled m.kernel.outlet = m.setHooks hooks := by
  unfold worked
  rw [Kernel.withOutlets_outlet]
  rfl

theorem worked_worked (m : Machine) (hooks hooks' : HookState) (polled polled' : Option Counters)
    (outlets outlets' : Nat → Outlet) :
    (m.worked hooks polled outlets).worked hooks' polled' outlets' = m.worked hooks' polled' outlets' := by
  have hkernel := m.kernel.withOutlets_withOutlets outlets outlets'
  unfold worked
  simp only [hkernel]

namespace Reads

theorem setHooks (m : Machine) (hooks : HookState) : m.Reads (m.setHooks hooks) :=
  ⟨hooks, m.kernel.outlet, (m.worked_outlet hooks).symm⟩

theorem refl (m : Machine) : m.Reads m := setHooks m m.engine.session.hooks

theorem trans {m'' : Machine} (h₁ : m.Reads m') (h₂ : m'.Reads m'') : m.Reads m'' := by
  obtain ⟨_, _, rfl⟩ := h₁
  obtain ⟨hooks, outlets, rfl⟩ := h₂
  exact ⟨hooks, outlets, m.worked_worked _ _ _ _ _ _⟩

theorem log (m : Machine) (c : Component) (level : Level) (message : String) (fields : List (String × FieldValue)) :
    m.Reads (m.log c level message fields) :=
  setHooks m _

end Reads

namespace Tells

theorem refl (m : Machine) : m.Tells m := ⟨m.telemetry, m.engine.polled, rfl⟩

theorem trans {m'' : Machine} (h₁ : m.Tells m') (h₂ : m'.Tells m'') : m.Tells m'' := by
  obtain ⟨_, _, rfl⟩ := h₁
  obtain ⟨t, polled, rfl⟩ := h₂
  exact ⟨t, polled, rfl⟩

theorem log (m : Machine) (c : Component) (level : Level) (message : String) (fields : List (String × FieldValue)) :
    m.Tells (m.log c level message fields) :=
  ⟨m.telemetry.log c level message fields, m.engine.polled, rfl⟩

end Tells

namespace Works

theorem trans {m'' : Machine} (h₁ : m.Works m') (h₂ : m'.Works m'') : m.Works m'' := by
  obtain ⟨_, _, _, rfl⟩ := h₁
  obtain ⟨hooks, polled, outlets, rfl⟩ := h₂
  exact ⟨hooks, polled, outlets, m.worked_worked _ _ _ _ _ _⟩

theorem of_reads (h : m.Reads m') : m.Works m' := by
  obtain ⟨hooks, outlets, rfl⟩ := h
  exact ⟨hooks, m.engine.polled, outlets, rfl⟩

theorem of_tells (h : m.Tells m') : m.Works m' := by
  obtain ⟨t, polled, rfl⟩ := h
  refine ⟨{ m.engine.session.hooks with telemetry := t }, polled, m.kernel.outlet, ?_⟩
  unfold worked
  rw [Kernel.withOutlets_outlet]
  rfl

theorem refl (m : Machine) : m.Works m := of_reads (.refl m)

theorem loads (h : m.Works m') : m'.kernel.loads = m.kernel.loads := by
  obtain ⟨_, _, outlets, rfl⟩ := h
  exact m.kernel.loads_withOutlets outlets

end Works

/-! ### One turn -/

theorem beginReader_eq (c : KernelCall) (message : String) {t : Task} (ht : t.phase = .fresh) (m : Machine) :
    (∃ told, (beginReader c message t m).2 = m.told told m.engine.polled) ∧
      t.Continues (beginReader c message t m).1 := by
  unfold beginReader
  split
  · exact ⟨⟨m.telemetry.log .loader .warn message watchError, rfl⟩, rfl, rfl, fun _ => rfl⟩
  · exact ⟨⟨m.telemetry, rfl⟩, rfl, rfl, fun h => nomatch ht.symm.trans h⟩

theorem beginTask_eq (t : Task) (m : Machine) :
    (∃ told, (beginTask t m).2 = m.told told m.engine.polled) ∧ t.Continues (beginTask t m).1 := by
  unfold beginTask
  split
  · exact ⟨⟨m.telemetry, rfl⟩, .refl t⟩
  · rename_i hfresh
    have ht : t.phase = .fresh := Decidable.not_not.mp hfresh
    split
    · exact beginReader_eq _ _ ht m
    · exact beginReader_eq _ _ ht m
    · exact ⟨⟨m.telemetry, rfl⟩, rfl, rfl, fun h => nomatch ht.symm.trans h⟩

theorem beginTask_tells (t : Task) (m : Machine) : m.Tells (beginTask t m).2 := by
  obtain ⟨⟨told, h⟩, -⟩ := beginTask_eq t m
  exact ⟨told, m.engine.polled, h⟩

theorem beginTask_reads (t : Task) (m : Machine) : m.Reads (beginTask t m).2 := by
  obtain ⟨⟨told, h⟩, -⟩ := beginTask_eq t m
  rw [h]
  exact .setHooks m { m.engine.session.hooks with telemetry := told }

theorem readCounters_tells (outcomes : List Outcome) (m : Machine) : m.Tells (readCounters outcomes m).2 := by
  induction outcomes generalizing m with
  | nil => exact .refl m
  | cons o rest ih =>
    have hread : m.Tells (m.readCounter o).2 := by
      unfold readCounter
      split
      · exact .refl m
      · exact .log _ _ _ _ _
    exact hread.trans (ih _)

theorem poll_tells (m : Machine) : m.Tells m.poll := by
  have hread := readCounters_tells Outcome.all m
  unfold poll
  generalize readCounters Outcome.all m = read at hread ⊢
  exact hread.trans ⟨_, _, rfl⟩

theorem pollTimes_tells (n : Nat) (m : Machine) : m.Tells (m.pollTimes n) := by
  induction n generalizing m with
  | zero => exact .refl m
  | succ n ih => exact (poll_tells m).trans (ih m.poll)

theorem pollTask_tells (t : Task) (m : Machine) : m.Tells (pollTask t m).2 ∧ t.Continues (pollTask t m).1 := by
  unfold pollTask
  split
  · rename_i hphase
    exact ⟨pollTimes_tells _ m, rfl, rfl, fun h => nomatch hphase.symm.trans h⟩
  · exact ⟨.refl m, .refl t⟩

theorem pollTask_of_reader {t : Task} (hjob : ∀ interval, t.job ≠ .pollCounters interval) (m : Machine) :
    pollTask t m = (t, m) := by
  unfold pollTask
  split
  · exact absurd (by assumption) (hjob _)
  · rfl

/-- The machine with a ring of a load that has lost a record, and with other hooks. -/
def taken (m : Machine) (load : Nat) (ring : Ring) (hooks : HookState) : Machine :=
  { m with kernel := m.kernel.setOutlet load { m.kernel.outlet load with ring } }.setHooks hooks

theorem loads_taken (m : Machine) (load : Nat) (ring : Ring) (hooks : HookState) :
    (m.taken load ring hooks).kernel.loads = m.kernel.loads :=
  m.kernel.loads_withOutlets _

theorem setOutlet_reads (m : Machine) (load : Nat) (o : Outlet) :
    m.Reads { m with kernel := m.kernel.setOutlet load o } :=
  ⟨m.engine.session.hooks, fun n => if n = load then o else m.kernel.outlet n, rfl⟩

theorem taken_reads (m : Machine) (load : Nat) (ring : Ring) (hooks : HookState) : m.Reads (m.taken load ring hooks) :=
  (m.setOutlet_reads load _).trans (.setHooks _ hooks)

section
variable {load n : Nat} {sample : Bytes} {ring : Ring} {hooks : HookState} {e : CaptureError}

theorem forwardRecords_ok (hnext : (m.kernel.outlet load).ring.next? = some (sample, ring))
    (hforward : m.engine.hookSettings.forward sample m.engine.session.hooks = (.ok (), hooks)) :
    forwardRecords load (n + 1) m = forwardRecords load n (m.taken load ring hooks) := by
  simp only [forwardRecords, hnext]
  rw [show Engine.hookSettings _ = m.engine.hookSettings from rfl, hforward]
  rfl

theorem forwardRecords_error (hnext : (m.kernel.outlet load).ring.next? = some (sample, ring))
    (hforward : m.engine.hookSettings.forward sample m.engine.session.hooks = (.error e, hooks)) :
    forwardRecords load (n + 1) m = (true, (m.taken load ring hooks).log .loader .debug
      "capture consumer closed, ring buffer reader exiting" []) := by
  simp only [forwardRecords, hnext]
  rw [show Engine.hookSettings _ = m.engine.hookSettings from rfl, hforward]
  rfl

/-- A reader finds the ring empty, or it takes a sample and goes on, or the sample ends it. -/
theorem forwardRecords_cases (load n : Nat) (m : Machine) :
    ((m.kernel.outlet load).ring.next? = none ∧ forwardRecords load (n + 1) m = (false, m)) ∨
      ∃ sample ring hooks, (m.kernel.outlet load).ring.next? = some (sample, ring) ∧
        ((m.engine.hookSettings.forward sample m.engine.session.hooks = (.ok (), hooks) ∧
            forwardRecords load (n + 1) m = forwardRecords load n (m.taken load ring hooks)) ∨
          ∃ e, m.engine.hookSettings.forward sample m.engine.session.hooks = (.error e, hooks) ∧
            forwardRecords load (n + 1) m = (true, (m.taken load ring hooks).log .loader .debug
              "capture consumer closed, ring buffer reader exiting" [])) := by
  cases hnext : (m.kernel.outlet load).ring.next? with
  | none =>
    refine Or.inl ⟨rfl, ?_⟩
    simp only [forwardRecords, hnext]
  | some next =>
    obtain ⟨sample, ring⟩ := next
    rcases hforward : m.engine.hookSettings.forward sample m.engine.session.hooks with ⟨e | _, hooks⟩
    · exact Or.inr ⟨sample, ring, hooks, rfl, Or.inr ⟨e, hforward, forwardRecords_error hnext hforward⟩⟩
    · exact Or.inr ⟨sample, ring, hooks, rfl, Or.inl ⟨hforward, forwardRecords_ok hnext hforward⟩⟩

theorem forwardRecords_reads (load n : Nat) (m : Machine) : m.Reads (forwardRecords load n m).2 := by
  induction n generalizing m with
  | zero => exact .refl m
  | succ n ih =>
    rcases forwardRecords_cases load n m with ⟨-, h⟩ | ⟨sample, ring, hooks, -, ⟨-, h⟩ | ⟨e, -, h⟩⟩
    · rw [h]
      exact .refl m
    · rw [h]
      exact (m.taken_reads load ring hooks).trans (ih _)
    · rw [h]
      exact (m.taken_reads load ring hooks).trans (.log _ _ _ _ _)

end

theorem observeFrames_reads (items : List Incoming) (m : Machine) : m.Reads (observeFrames items m) := by
  induction items generalizing m with
  | nil => exact .refl m
  | cons item rest ih =>
    cases item with
    | frame data => exact (Reads.setHooks _ _).trans (ih _)
    | failure reason => exact (Reads.log _ _ _ _ _).trans (ih _)

/-- A reader that fails to wait only ends, and tells why. -/
theorem awaitSource_cases (c : KernelCall) (message : String) (read : Task → Machine → Task × Machine) (t : Task)
    (m : Machine) :
    (m.kernel.fault? c = none ∧ awaitSource c message read t m = read t m) ∨
      ∃ reason, m.kernel.fault? c = some reason ∧ awaitSource c message read t m =
        ({ t with phase := .finished }, m.log .loader .warn message [("error", .text reason)]) := by
  unfold awaitSource
  cases m.kernel.fault? c with
  | none => exact Or.inl ⟨rfl, rfl⟩
  | some reason => exact Or.inr ⟨reason, rfl, rfl⟩

theorem awaitSource_reads {c : KernelCall} {message : String} {read : Task → Machine → Task × Machine} {t : Task}
    (hread : m.Reads (read t m).2 ∧ t.Continues (read t m).1) :
    m.Reads (awaitSource c message read t m).2 ∧ t.Continues (awaitSource c message read t m).1 := by
  rcases awaitSource_cases c message read t m with ⟨-, h⟩ | ⟨reason, -, h⟩
  · rw [h]
    exact hread
  · rw [h]
    exact ⟨.log _ _ _ _ _, rfl, rfl, fun _ => rfl⟩

theorem drainRing_reads (load : Nat) (t : Task) (m : Machine) :
    m.Reads (drainRing load t m).2 ∧ t.Continues (drainRing load t m).1 := by
  refine ⟨forwardRecords_reads _ _ m, ?_⟩
  unfold drainRing
  simp only
  split
  · exact ⟨rfl, rfl, fun _ => rfl⟩
  · exact .refl t

theorem drainSocket_reads (load : Nat) (t : Task) (m : Machine) :
    m.Reads (drainSocket load t m).2 ∧ t.Continues (drainSocket load t m).1 := by
  exact ⟨(m.setOutlet_reads load _).trans (observeFrames_reads _ _), .refl t⟩

theorem readTask_reads (t : Task) (m : Machine) : m.Reads (readTask t m).2 ∧ t.Continues (readTask t m).1 := by
  unfold readTask
  split
  · exact awaitSource_reads (drainRing_reads _ t m)
  · exact awaitSource_reads (drainSocket_reads _ t m)
  · exact ⟨.refl m, .refl t⟩

/-! ### All turns -/

/-- What each turn keeps of the machine, all of them keep, and each task becomes what its turn makes of it. -/
theorem turns_induct {turn : Task → Machine → Task × Machine} {I : Machine → Prop} {R : Task → Task → Prop}
    (tasks : List Task) (hturn : ∀ t ∈ tasks, ∀ m, I m → I (turn t m).2 ∧ R t (turn t m).1) {m : Machine} (hm : I m) :
    I (turns turn tasks m).2 ∧ (∀ t ∈ tasks, ∃ t' ∈ (turns turn tasks m).1, R t t') ∧
      ∀ t' ∈ (turns turn tasks m).1, ∃ t ∈ tasks, R t t' := by
  induction tasks generalizing m with
  | nil => exact ⟨hm, nofun, nofun⟩
  | cons t rest ih =>
    obtain ⟨hhere, hr⟩ := hturn t List.mem_cons_self m hm
    obtain ⟨hrest, hto, hfrom⟩ := ih (fun u hu => hturn u (List.mem_cons_of_mem _ hu)) hhere
    refine ⟨hrest, ?_, ?_⟩
    · rintro u (_ | ⟨_, hu⟩)
      · exact ⟨_, List.mem_cons_self, hr⟩
      · obtain ⟨u', hu', h⟩ := hto u hu
        exact ⟨u', List.mem_cons_of_mem _ hu', h⟩
    · rintro u' (_ | ⟨_, hu'⟩)
      · exact ⟨t, List.mem_cons_self, hr⟩
      · obtain ⟨u, hu, h⟩ := hfrom u' hu'
        exact ⟨u, List.mem_cons_of_mem _ hu, h⟩

theorem turns_countP {turn : Task → Machine → Task × Machine} {I : Machine → Prop} {p : Task → Bool} {tasks : List Task}
    (hturn : ∀ t ∈ tasks, ∀ m, I m → I (turn t m).2 ∧ p (turn t m).1 = p t) (hm : I m) :
    (turns turn tasks m).1.countP p = tasks.countP p := by
  induction tasks generalizing m with
  | nil => rfl
  | cons t rest ih =>
    obtain ⟨hhere, hsame⟩ := hturn t List.mem_cons_self m hm
    have hrest := ih (fun u hu => hturn u (List.mem_cons_of_mem _ hu)) hhere
    show ((turn t m).1 :: (turns turn rest (turn t m).2).1).countP p = _
    rw [List.countP_cons, List.countP_cons, hrest, hsame]

/-- Turns in which nothing happens. -/
theorem turns_idle {turn : Task → Machine → Task × Machine} {tasks : List Task}
    (hturn : ∀ t ∈ tasks, turn t m = (t, m)) : turns turn tasks m = (tasks, m) := by
  induction tasks with
  | nil => rfl
  | cons t rest ih =>
    have hrest := ih fun u hu => hturn u (List.mem_cons_of_mem _ hu)
    unfold turns
    simp only [hturn t List.mem_cons_self, hrest]

/-- Turns in which the first task that waits finds something to do, and no other does. -/
theorem turns_once {turn : Task → Machine → Task × Machine} (waits : Task → Prop) {tasks : List Task}
    (hacts : ∀ t ∈ tasks, waits t → turn t m = (t, m')) (hidle : ∀ t ∈ tasks, ¬waits t → turn t m = (t, m))
    (hdone : ∀ t ∈ tasks, turn t m' = (t, m')) (ht : ∃ t ∈ tasks, waits t) :
    turns turn tasks m = (tasks, m') := by
  induction tasks with
  | nil => obtain ⟨t, ht, -⟩ := ht; cases ht
  | cons t rest ih =>
    rw [List.forall_mem_cons] at hacts hidle hdone
    by_cases hwaits : waits t
    · unfold turns
      simp only [hacts.1 hwaits, turns_idle hdone.2]
    · -- What there is to do is left to a task further behind.
      have hrest := ih hacts.2 hidle.2 hdone.2 (by
        obtain ⟨u, hu, hwaits'⟩ := ht
        rcases List.mem_cons.mp hu with rfl | hu
        · exact absurd hwaits' hwaits
        · exact ⟨u, hu, hwaits'⟩)
      unfold turns
      simp only [hidle.1 hwaits, hrest]

theorem eachTask_idle {turn : Task → Machine → Task × Machine} (hturn : ∀ t ∈ m.engine.tasks, turn t m = (t, m)) :
    m.eachTask turn = m := by
  unfold eachTask
  rw [turns_idle hturn]
  rfl

/-- The machine after some turns of its tasks. -/
def Settles (m m' : Machine) : Prop :=
  ∃ m'' tasks, m.Works m'' ∧ m' = m''.withTasks tasks ∧ ∀ t' ∈ tasks, ∃ t ∈ m.engine.tasks, t.Continues t'

namespace Settles

theorem trans {m'' : Machine} (h₁ : m.Settles m') (h₂ : m'.Settles m'') : m.Settles m'' := by
  obtain ⟨m₁, tasks₁, hworks₁, rfl, hfrom₁⟩ := h₁
  obtain ⟨_, tasks₂, ⟨hooks, polled, outlets, rfl⟩, rfl, hfrom₂⟩ := h₂
  refine ⟨m₁.worked hooks polled outlets, tasks₂, hworks₁.trans ⟨hooks, polled, outlets, rfl⟩, rfl, fun t'' ht'' => ?_⟩
  obtain ⟨t', ht', h'⟩ := hfrom₂ t'' ht''
  obtain ⟨t, ht, h⟩ := hfrom₁ t' ht'
  exact ⟨t, ht, h.trans h'⟩

theorem eachTask {turn : Task → Machine → Task × Machine}
    (hturn : ∀ (t : Task) (m : Machine), m.Works (turn t m).2 ∧ t.Continues (turn t m).1) (m : Machine) :
    m.Settles (m.eachTask turn) := by
  obtain ⟨hworks, -, hfrom⟩ := turns_induct (I := m.Works) (R := Task.Continues) m.engine.tasks
    (fun t _ m' h => ⟨h.trans (hturn t m').1, (hturn t m').2⟩) (.refl m)
  exact ⟨_, _, hworks, rfl, hfrom⟩

theorem begin (m : Machine) : m.Settles (m.eachTask beginTask) :=
  eachTask (fun t m => ⟨.of_tells (beginTask_tells t m), (beginTask_eq t m).2⟩) m

theorem poll (m : Machine) : m.Settles (m.eachTask pollTask) :=
  eachTask (fun t m => ⟨.of_tells (pollTask_tells t m).1, (pollTask_tells t m).2⟩) m

theorem read (m : Machine) : m.Settles (m.eachTask readTask) :=
  eachTask (fun t m => ⟨.of_reads (readTask_reads t m).1, (readTask_reads t m).2⟩) m

theorem settle (m : Machine) : m.Settles m.settle := ((begin m).trans (poll _)).trans (read _)

theorem loads (h : m.Settles m') : m'.kernel.loads = m.kernel.loads := by
  obtain ⟨_, _, hworks, rfl, -⟩ := h
  exact hworks.loads

end Settles

/-- No socket is opened by settling. -/
theorem Settles.opened (h : m.Settles m') {load : Nat} (hopened : m'.opened load = true) : m.opened load = true := by
  obtain ⟨_, tasks, ⟨_, _, _, rfl⟩, rfl, hfrom⟩ := h
  unfold Machine.opened at hopened ⊢
  rw [List.any_eq_true] at hopened ⊢
  obtain ⟨t', ht', hreads⟩ := hopened
  obtain ⟨t, ht, hcontinues⟩ := hfrom t' ht'
  simp only [Bool.and_eq_true, decide_eq_true_eq] at hreads
  refine ⟨t, ht, ?_⟩
  simp only [Bool.and_eq_true, decide_eq_true_eq]
  exact ⟨hcontinues.job.symm.trans hreads.1, fun hphase => hreads.2 (hcontinues.finished hphase)⟩

/-- Before the tasks read, nothing has changed but what is told and polled. A task that has become ready when it began
    is so still when all have polled. -/
theorem prepared_turns {begins ready : Task → Prop}
    (hbegin : ∀ (t : Task) (m' : Machine), m.Tells m' → begins t → ready (beginTask t m').1)
    (hpoll : ∀ (t : Task) (m' : Machine), ready t → ready (pollTask t m').1) : ∃ m' tasks, m.Tells m' ∧
    (m.eachTask beginTask).eachTask pollTask = m'.withTasks tasks ∧
      ((∃ t ∈ m.engine.tasks, begins t) → ∃ t ∈ tasks, ready t) ∧
        ∀ t' ∈ tasks, ∃ t ∈ m.engine.tasks, t.Continues t' := by
  obtain ⟨⟨t₁, p₁, h₁⟩, hbegin, hfrom₁⟩ := turns_induct (I := m.Tells)
    (R := fun t t' => (begins t → ready t') ∧ t.Continues t') m.engine.tasks
    (fun t _ m' h => ⟨h.trans (beginTask_tells t m'), hbegin t m' h, (beginTask_eq t m').2⟩) (.refl m)
  obtain ⟨⟨t₂, p₂, h₂⟩, hpoll, hfrom₂⟩ := turns_induct (I := (m.eachTask beginTask).Tells)
    (R := fun t t' => (ready t → ready t') ∧ t.Continues t') (m.eachTask beginTask).engine.tasks
    (fun t _ m' h => ⟨h.trans (pollTask_tells t m').1, hpoll t m', (pollTask_tells t m').2⟩) (.refl _)
  have hm : m.eachTask beginTask = (m.told t₁ p₁).withTasks (turns beginTask m.engine.tasks m).1 := by
    rw [← h₁]
    rfl
  refine ⟨m.told t₂ p₂, (turns pollTask (m.eachTask beginTask).engine.tasks (m.eachTask beginTask)).1, ⟨t₂, p₂, rfl⟩,
    ?_, ?_, ?_⟩
  · show (turns pollTask (m.eachTask beginTask).engine.tasks (m.eachTask beginTask)).2.withTasks _ = _
    rw [h₂, hm]
    rfl
  · rintro ⟨t, ht, hbegins⟩
    obtain ⟨t', ht', hready, -⟩ := hbegin t ht
    obtain ⟨t'', ht'', hready', -⟩ := hpoll t' ht'
    exact ⟨t'', ht'', hready' (hready hbegins)⟩
  · intro t'' ht''
    obtain ⟨t', ht', -, h'⟩ := hfrom₂ t'' ht''
    obtain ⟨t, ht, -, h⟩ := hfrom₁ t' ht'
    exact ⟨t, ht, h.trans h'⟩

/-- Settling comes to what the tasks read when they are prepared. -/
theorem settle_eq {m'' : Machine} {tasks tasks' : List Task}
    (hprepared : (m.eachTask beginTask).eachTask pollTask = m'.withTasks tasks)
    (hread : turns readTask tasks (m'.withTasks tasks) = (tasks', m'')) : m.settle = m''.withTasks tasks' := by
  unfold settle
  rw [hprepared]
  show (turns readTask tasks (m'.withTasks tasks)).2.withTasks (turns readTask tasks (m'.withTasks tasks)).1 = _
  rw [hread]

theorem eachTask_polled {turn : Task → Machine → Task × Machine}
    (hturn : ∀ (t : Task) (m : Machine), m.Reads (turn t m).2) (m : Machine) :
    (m.eachTask turn).engine.polled = m.engine.polled := by
  obtain ⟨⟨_, _, h⟩, -, -⟩ := turns_induct (I := m.Reads) (R := fun _ _ => True) m.engine.tasks
    (fun t _ m' h => ⟨h.trans (hturn t m'), trivial⟩) (.refl m)
  show (turns turn m.engine.tasks m).2.engine.polled = _
  rw [h]
  rfl

/-- The counters polled last are those that they were, unless there is a poller. -/
theorem settle_polled (hm : ∀ t ∈ m.engine.tasks, ∀ interval, t.job ≠ .pollCounters interval) :
    m.settle.engine.polled = m.engine.polled := by
  obtain ⟨_, tasks, ⟨_, _, _, rfl⟩, hbegin, hfrom⟩ := Settles.begin m
  have hpoll : (m.eachTask beginTask).eachTask pollTask = m.eachTask beginTask := by
    refine eachTask_idle fun t' ht' => pollTask_of_reader (fun interval hpolls => ?_) _
    rw [hbegin] at ht'
    obtain ⟨t, ht, hcontinues⟩ := hfrom t' ht'
    exact hm t ht interval (hcontinues.job.symm.trans hpolls)
  unfold settle
  rw [hpoll, eachTask_polled (fun t m => (readTask_reads t m).1), eachTask_polled beginTask_reads]

/-- When every task has ended, nothing happens any more. -/
theorem settle_of_ended (hm : m.Ended) : m.settle = m := by
  have hbegin : m.eachTask beginTask = m := eachTask_idle fun t ht => by simp [beginTask, hm t ht]
  have hpoll : m.eachTask pollTask = m := eachTask_idle fun t ht => by simp [pollTask, hm t ht]
  have hread : m.eachTask readTask = m := eachTask_idle fun t ht => by simp [readTask, hm t ht]
  unfold settle
  rw [hbegin, hpoll, hread]

end Machine
end FrameSentry
