import FrameSentry.Proofs.Engine.Reachable
import FrameSentry.Proofs.Engine.Reader

/-! What a start that fails leaves. The object is unloaded and its programs are no longer linked, wherever the start
    failed. But the reader of the engine's mode starts before the counters are looked for. When only these are
    missing the reader is left behind, and nobody owns it. An engine that captures still forwards whatever comes into
    the ring; one that enforces still receives from its socket, which has lost its filter, every packet that passes. In
    every other case nothing is left, and whatever happens before the next start the queue and the counters of the hooks
    stay as they are. -/

namespace FrameSentry

/-- What happens to a machine from outside while its engine is left alone: packets pass, samples are put into the
    ring, calls to the kernel begin to fail or work again, tasks run and time passes. -/
def MachineStep.Passive : MachineStep → Prop
  | .inject _ _ _ | .sample _ | .disturb _ _ | .failSocket _ _ | .settle | .tick _ => True
  | _ => False

namespace Machine
variable {m m₁ : Machine} {h : Host}

/-- Everything is there but the counters, when the reader runs already. -/
def LeavesReader (m : Machine) (h : Host) : Prop := ∃ o w r, m.Loads h o w r ∧ m.Attaches h o ∧ ¬o.Counts

/-- The reader that is left behind: it has not run yet, and nobody owns it. -/
def leftReader (m : Machine) : Task := ⟨m.nextReader, .fresh, false⟩

theorem Loads.object_unique {o o' : Object} {w r w' r' : Nat} (hl : m.Loads h o w r) (hl' : m.Loads h o' w' r') :
    o = o' :=
  Option.some.inj (hl.object.symm.trans hl'.object)

/-! ### Nothing goes on -/

/-- With no task that goes on, nothing that is done from outside reaches the engine. -/
theorem Ended.step (he : m.Ended) (h : Host) {s : MachineStep} (hs : s.Passive) : (m.step h s).2.engine = m.engine := by
  cases s with
  | inject packet d cpu => rfl
  | sample bytes => rfl
  | disturb c reason => rfl
  | failSocket load reason => rfl
  | settle => exact congrArg engine (settle_of_ended he)
  | tick seconds =>
    have hfirst : m.settle = m := settle_of_ended he
    have hsecond : (m.pass seconds).settle = m.pass seconds := settle_of_ended he
    show (m.settle.pass seconds).settle.engine = m.engine
    rw [hfirst, hsecond]
    rfl
  | _ => exact hs.elim

theorem Ended.perform (he : m.Ended) (h : Host) {steps : List MachineStep} (hs : ∀ s ∈ steps, s.Passive) :
    (m.perform h steps).engine = m.engine := by
  induction steps generalizing m with
  | nil => rfl
  | cons s rest ih =>
    have hstep := he.step h (hs s List.mem_cons_self)
    have hended : (m.step h s).2.Ended := by
      unfold Ended
      rw [hstep]
      exact he
    exact (ih hended fun s hs' => hs s (List.mem_cons_of_mem _ hs')).trans hstep

/-- No task goes on, and whatever happens from outside, nothing is put into the queue and nothing is counted. -/
structure Still (m : Machine) : Prop where
  ended : m.Ended
  session : ∀ (h : Host) (steps : List MachineStep), (∀ s ∈ steps, s.Passive) →
    (m.perform h steps).engine.session = m.engine.session

theorem still_iff : m.Still ↔ m.Ended :=
  ⟨fun h => h.ended, fun he => ⟨he, fun h _ hs => congrArg Engine.session (he.perform h hs)⟩⟩

/-! ### After a start that failed -/

/-- What every start that fails leaves of a machine: the engine does not run and shows no counters, nothing is loaded
    or linked, and the object is unloaded if it was loaded. -/
structure GivenUp (m m₁ : Machine) : Prop where
  running : m₁.engine.running = false
  polled : m₁.engine.polled = none
  loaded : m₁.kernel.loaded = false
  links : m₁.kernel.links = []
  trace : m₁.kernel.trace = m.kernel.trace ∨ ∃ path w r events,
    m₁.kernel.trace = m.kernel.trace ++ .loadObject path w r :: events ++ [.unloadObject]
  queue : m₁.engine.session.hooks.queue = m.engine.session.hooks.queue
  counters : m₁.engine.session.hooks.counters = m.engine.session.hooks.counters

theorem Failing.givenUp (hf : m.Failing h m₁) (hm : m.Idle) (hrunning : m.engine.running = false) : m.GivenUp m₁ := by
  have hidle := hf.idle hm
  have hloaded : ∀ (o : Object) (w r : Nat) ports links events,
      (((m.loadedKernel h o w r).grown ports links events).unload).trace =
        m.kernel.trace ++ .loadObject m.engine.settings.base.programPath w r :: events ++ [.unloadObject] := by
    intro o w r ports links events
    show ((m.kernel.trace ++ [.loadObject m.engine.settings.base.programPath w r]) ++ events) ++ [.unloadObject] = _
    simp
  refine ⟨hf.engine_eq.1.trans hrunning, hidle.polled, hidle.loaded, hidle.links, ?_, ?_, ?_⟩
  · cases hf with
    | unloaded hl t => exact Or.inl (congrArg Kernel.trace (hm.giveUp_kernel t))
    | unlinked => exact Or.inr ⟨_, _, _, _, hloaded _ _ _ _ _ _⟩
    | uncounted => exact Or.inr ⟨_, _, _, _, hloaded _ _ _ _ _ _⟩
  · cases hf <;> rfl
  · cases hf <;> rfl

theorem disown_of_owned {tasks : List Task} (ht : ∀ t ∈ tasks, t.owned = false) :
    (tasks.map fun t : Task => { t with owned := false }) = tasks := by
  refine (List.map_congr_left fun t hmem => ?_).trans (List.map_id tasks)
  rw [← ht t hmem]
  rfl

/-- The tasks that a start which fails leaves: those that were there, and the reader if only the counters are
    missing. -/
theorem Failing.tasks_eq (hf : m.Failing h m₁) (hm : m.Idle) :
    (m.LeavesReader h ∧ m₁.engine.tasks = m.engine.tasks ++ [m.leftReader]) ∨
      (¬m.LeavesReader h ∧ m₁.engine.tasks = m.engine.tasks) := by
  have hearlier := disown_of_owned hm.owned
  cases hf with
  | unloaded hl t =>
    refine Or.inr ⟨?_, hearlier⟩
    rintro ⟨o, w, r, hl', -⟩
    exact hl o w r hl'
  | unlinked hl ha =>
    refine Or.inr ⟨?_, hearlier⟩
    rintro ⟨o, w, r, hl', ha', -⟩
    rw [← hl.object_unique hl'] at ha'
    exact ha ha'
  | uncounted hl ha hc =>
    refine Or.inl ⟨⟨_, _, _, hl, ha, hc⟩, ?_⟩
    show List.map (fun t : Task => { t with owned := false }) (m.engine.tasks ++ [_]) = _
    rw [List.map_append, hearlier]
    rfl

/-- What a start leaves to the reader: an empty ring, a socket without a filter at which nothing waits yet, the hooks of
    before, and the tasks of before, which nobody owns. -/
structure Abandons (m m₁ : Machine) : Prop where
  loads : m₁.kernel.loads = m.kernel.loads + 1
  former : ∀ load ≤ m.kernel.loads, m₁.kernel.outlet load = m.kernel.outlet load
  records : m₁.kernel.maps.ring.records = []
  inbox : m₁.kernel.inbox = []
  links : m₁.kernel.links = []
  tasks : m₁.engine.tasks = (m.engine.tasks.map fun t => { t with owned := false }) ++ [m.leftReader]
  settings : m₁.engine.hookSettings = m.engine.hookSettings
  hooks : ∃ told, m₁.engine.session.hooks = { m.engine.session.hooks with telemetry := told }

theorem LeavesReader.abandons {e : Error} (hl : m.LeavesReader h) (hrunning : m.engine.running = false)
    (hs : m.start h = (.error e, m₁)) : m.Abandons m₁ := by
  obtain ⟨o, w, r, hloads, hattaches, -⟩ := hl
  cases start_error hrunning hs with
  | unloaded hl => exact absurd hloads (hl o w r)
  | unlinked hl ha => exact absurd (hl.object_unique hloads ▸ hattaches) ha
  | @uncounted o w r hl ha hc events t =>
    exact ⟨m.loads_loadedKernel h o w r, m.outlet_loadedKernel h o w r, rfl, rfl, rfl, List.map_append, rfl, t, rfl⟩

namespace Abandons

theorem mem_tasks (ha : m.Abandons m₁) {t : Task} (ht : t ∈ m₁.engine.tasks) :
    t = m.leftReader ∨ ∃ t₀ ∈ m.engine.tasks, t = { t₀ with owned := false } := by
  rw [ha.tasks] at ht
  rcases List.mem_append.mp ht with ht | ht
  · obtain ⟨t₀, ht₀, rfl⟩ := List.mem_map.mp ht
    exact Or.inr ⟨t₀, ht₀, rfl⟩
  · exact Or.inl (List.mem_singleton.mp ht)

theorem reader_mem (ha : m.Abandons m₁) : m.leftReader ∈ m₁.engine.tasks := by
  rw [ha.tasks]
  exact List.mem_append_right _ List.mem_cons_self

theorem queue_eq (ha : m.Abandons m₁) : m₁.queue = m.queue := by
  obtain ⟨told, hhooks⟩ := ha.hooks
  unfold queue
  rw [hhooks]

end Abandons

/-- In an engine that captures, the reader that is left behind puts the records of its ring into the queue. -/
theorem left_reader_forwards {e : Error} (hl : m.LeavesReader h) (hrunning : m.engine.running = false)
    (hquiet : m.Quiet) (hs : m.start h = (.error e, m₁)) (hmode : m.engine.mode = .capture)
    (hserves : m₁.kernel.Serves m.nextReader) (hq : m.queue.closed = false) {packet : Frame} (hw : packet.Whole)
    (h' : Host) : (m₁.perform h' [.sample packet.recorded, .settle]).queue =
      (m.queue.enqueue packet.length (packet.data.take (m.engine.hookSettings.copyLength packet.length))).2 := by
  have ha := hl.abandons hrunning hs
  have hnext : m.nextReader = .readRing m₁.kernel.loads := by
    rw [ha.loads, nextReader, hmode]
    rfl
  have hspent : ∀ t ∈ m₁.engine.tasks, t.Spent m₁.kernel := fun t ht => by
    rcases ha.mem_tasks ht with rfl | ⟨t₀, ht₀, rfl⟩
    · exact Or.inl (Or.inr (Or.inr hnext))
    · have hleft : t₀.Spent m₁.kernel := hquiet.spent ha.loads ha.former ht₀
      exact hleft
  have hring : (m₁.perform h' [.sample packet.recorded]).kernel.maps.ring.records = [packet.recorded] := by
    show m₁.kernel.maps.ring.records ++ [packet.recorded] = _
    rw [ha.records, List.nil_append]
  obtain ⟨_, _, ⟨t, polled, rfl⟩, hsettle, -⟩ := settle_forwarded (m := m₁.perform h' [.sample packet.recorded])
    (hnext ▸ hserves) hw (ha.queue_eq ▸ hq) hring
    (fun u hu => (hspent u hu).congr rfl fun load hload => Kernel.outlet_of_former rfl hload)
    ⟨_, ha.reader_mem, hnext, nofun⟩
  show (m₁.perform h' [.sample packet.recorded]).settle.queue = _
  rw [hsettle, ← ha.queue_eq, ← ha.settings]
  exact HookSettings.forward_queue _ hw _

/-- In an engine that enforces, the reader that is left behind hands every packet to the hook, whether the filter would
    accept it or not. -/
theorem left_reader_receives {e : Error} (hl : m.LeavesReader h) (hrunning : m.engine.running = false)
    (hended : m.Ended) (hs : m.start h = (.error e, m₁)) (hmode : m.engine.mode = .enforce)
    (hserves : m₁.kernel.Serves m.nextReader) (packet : Frame) (d : Direction) (cpu : Nat) (h' : Host) :
    ∃ told, (m₁.perform h' [.inject packet d cpu, .settle]).engine.session.hooks =
      (m.engine.hookSettings.onFrame (received packet.data) { m.engine.session.hooks with telemetry := told }).2 := by
  have ha := hl.abandons hrunning hs
  have hnext : m.nextReader = .readSocket m₁.kernel.loads := by
    rw [ha.loads, nextReader, hmode]
    rfl
  have hreads : ∀ t ∈ m₁.engine.tasks, t.ReadsOnly (.readSocket m₁.kernel.loads) := fun t ht => by
    rcases ha.mem_tasks ht with rfl | ⟨t₀, ht₀, rfl⟩
    · exact Or.inr (Or.inr hnext)
    · exact Or.inl (hended t₀ ht₀)
  have hlistens : m.leftReader.Listens (.readSocket m₁.kernel.loads) := ⟨hnext, nofun⟩
  -- No program is linked any more, so the packet only reaches the socket.
  have hkernel : (m₁.inject packet d cpu).2.kernel = m₁.kernel.overhear m₁.opened packet.data := by
    show (m₁.kernel.inject packet d cpu).2.overhear _ _ = _
    rw [show (m₁.kernel.inject packet d cpu).2 = m₁.kernel by simp [Kernel.inject, ha.links, Kernel.runLinks]]
  have hloads : (m₁.inject packet d cpu).2.kernel.loads = m₁.kernel.loads := by
    rw [hkernel]
    exact m₁.kernel.loads_overhear _ _
  have hinbox : (m₁.inject packet d cpu).2.kernel.inbox = [.frame packet.data] := by
    rw [hkernel, Kernel.overhear_inbox (opened_of_listens ha.reader_mem hlistens) (by simp [Kernel.unfiltered, ha.links]),
      ha.inbox, List.nil_append]
  obtain ⟨_, _, ⟨t, polled, rfl⟩, hsettle, -⟩ := settle_relayed (m := (m₁.inject packet d cpu).2)
    (by rw [hloads, ← hnext, Kernel.Serves, hkernel]; exact hserves) (by rw [hloads]; exact hreads)
    (by rw [hloads]; exact ⟨_, ha.reader_mem, hlistens⟩)
  obtain ⟨told, hhooks⟩ := ha.hooks
  refine ⟨t, ?_⟩
  show (m₁.inject packet d cpu).2.settle.engine.session.hooks = _
  rw [hsettle, ← ha.settings]
  show m₁.engine.hookSettings.receive (m₁.inject packet d cpu).2.kernel.inbox
    { m₁.engine.session.hooks with telemetry := t } = _
  rw [hinbox, hhooks]
  rfl

/-- A start that fails leaves nothing running, exactly unless only the counters of the kernel are missing: wherever
    it fails the engine is given up; but if the object can be loaded and linked and has no counters to poll, the
    reader is left behind, and otherwise the tasks are those of before. So if these have ended, nothing goes on and
    nothing from outside reaches the queue or the counters of the hooks, exactly if no reader is left. -/
theorem failed_start_leaves {e : Error} (hm : m.Reachable) (hrunning : m.engine.running = false)
    (hs : m.start h = (.error e, m₁)) :
    m.GivenUp m₁ ∧
      (m.LeavesReader h → m₁.engine.tasks = m.engine.tasks ++ [m.leftReader]) ∧
      (¬m.LeavesReader h → m₁.engine.tasks = m.engine.tasks) ∧
      (m.Ended → (m₁.Still ↔ ¬m.LeavesReader h)) := by
  have hidle := hm.tidy.idle hrunning
  have hf := start_error hrunning hs
  refine ⟨hf.givenUp hidle hrunning, ?_⟩
  rcases hf.tasks_eq hidle with ⟨hleaves, htasks⟩ | ⟨hleaves, htasks⟩
  · refine ⟨fun _ => htasks, fun hn => absurd hleaves hn, fun _ => ⟨fun hstill => ?_, fun hn => absurd hleaves hn⟩⟩
    have hreader := hstill.ended m.leftReader (by rw [htasks]; simp)
    cases hreader
  · refine ⟨fun hl => absurd hl hleaves, fun _ => htasks, fun hended => ⟨fun _ => hleaves, fun _ => ?_⟩⟩
    rw [still_iff]
    unfold Ended
    rw [htasks]
    exact hended

/-- Without any program the start fails, and nothing is left. -/
theorem failed_start_leaves_nothing :
    let m := Machine.create (.standard .capture)
    let m₁ := (m.start (.holding ⟨Object.standardMaps, [], []⟩)).2
    m.GivenUp m₁ ∧ m₁.engine.tasks = [] ∧ m₁.Still := by
  intro m m₁
  have hm : m.Reachable := .built (Engine.build_standard .capture)
  have hs : m.start (.holding ⟨Object.standardMaps, [], []⟩) =
      (.error (programError "program 'tc_ingress' not found"), m₁) := Prod.ext rfl rfl
  have hleaves : ¬m.LeavesReader (.holding ⟨Object.standardMaps, [], []⟩) := by
    rintro ⟨o, w, r, hl, ⟨-, ⟨hprogram, -⟩, -⟩, -⟩
    cases hl.object
    cases hprogram
  obtain ⟨hgiven, -, htasks, hstill⟩ := failed_start_leaves hm rfl hs
  exact ⟨hgiven, htasks hleaves, (hstill nofun).mpr hleaves⟩

/-- Without a map of counters the start fails as well, and then the reader that is left captures a datagram. -/
theorem failed_start_leaves_reader :
    let host := Host.holding ⟨[(Object.watchedPorts, "hash"), (Object.events, "ringbuf")], Object.standardPrograms, []⟩
    let m := Machine.create (.standard .capture)
    let m₁ := (m.start host).2
    let m₂ := m₁.perform host [.sample Frame.datagram.recorded, .settle]
    (m.start host).1 = .error (mapError "map 'STATS' not found") ∧ m₁.engine.running = false ∧
      m₁.engine.tasks = [⟨.readRing 1, .fresh, false⟩] ∧ m₁.queue.events = [] ∧
      m₂.queue.events = [⟨42, Frame.datagram.data, 46⟩] := by
  intro host m m₁ m₂
  have hs : m.start host = (.error (mapError "map 'STATS' not found"), m₁) := Prod.ext rfl rfl
  have hleaves : m.LeavesReader host := by
    refine ⟨_, 1024, 262144, ⟨rfl, rfl, rfl⟩, ?_, nofun⟩
    refine ⟨⟨rfl, fun _ _ => rfl⟩, ⟨rfl, rfl, rfl⟩, ⟨rfl, rfl, rfl⟩, rfl⟩
  have hqueue := left_reader_forwards hleaves rfl nofun hs rfl (fun c _ => by cases c <;> rfl) rfl
    (show Frame.datagram.Whole by decide) host
  refine ⟨congrArg Prod.fst hs, rfl, rfl, rfl, ?_⟩
  rw [show m₂.queue = _ from hqueue]
  rfl

end Machine
end FrameSentry
