import FrameSentry.Proofs.Engine.Reachable
import FrameSentry.Proofs.Engine.StartNotes
import FrameSentry.Proofs.Hook.Capture

/-! No program runs with an incomplete map of watched ports. A start inserts the ports one after the other, in ascending
    order, before it touches the interface or any program; if one of them cannot be inserted it goes no further. So
    whenever a program is linked, the map holds just the ports of the engine, and it was loaded with room for them. -/

namespace FrameSentry

/-- The call that inserts a watched port. -/
def KernelEvent.insertion (port : UInt16) : KernelEvent := .insertPort port 1 0

theorem KernelEvent.kind_of_mem_insertions {ports : List UInt16} {e : KernelEvent} (he : e ∈ ports.map insertion) :
    e.kind = .port := by
  obtain ⟨port, -, rfl⟩ := List.mem_map.mp he
  rfl

namespace Machine
open SetupStep
variable {m m₁ : Machine} {o : Object}

/-! ### The trace of a start -/

theorem check_snd (fault : Machine → Option Error) (m : Machine) : (check fault m).2 = m := by
  unfold check
  split <;> rfl

theorem call_cases (f : Kernel → Except String Kernel) (describe : String → Error) (m : Machine) :
    (∃ k, f m.kernel = .ok k ∧ call f describe m = (.ok (), { m with kernel := k })) ∨
      ∃ reason, call f describe m = (.error (describe reason), m) := by
  unfold call
  cases hf : f m.kernel with
  | error reason => exact Or.inr ⟨reason, rfl⟩
  | ok k => exact Or.inl ⟨k, rfl, rfl⟩

/-- The ports are inserted in their order, up to the first that cannot be. -/
theorem syncEach_trace (ports : List UInt16) (m : Machine) : ∃ inserted, inserted <+: ports ∧
    (runAll (ports.map syncPort) m).2.kernel.trace = m.kernel.trace ++ inserted.map .insertion ∧
      ((runAll (ports.map syncPort) m).1 = .ok () → inserted = ports) := by
  induction ports generalizing m with
  | nil => exact ⟨[], List.prefix_rfl, (List.append_nil _).symm, fun _ => rfl⟩
  | cons port rest ih =>
    rw [List.map_cons]
    rcases call_cases (·.insertPort port) (fun reason => mapError s!"insert port {port.toNat}: {reason}") m with
      ⟨k, hk, hport⟩ | ⟨reason, hport⟩
    · obtain ⟨inserted, hinitial, hrest, hall⟩ := ih { m with kernel := k }
      rw [runAll_cons_ok (by exact hport)]
      refine ⟨port :: inserted, (List.prefix_cons_inj port).mpr hinitial, ?_, fun hok => by rw [hall hok]⟩
      rw [hrest, Kernel.insertPort_ok hk, List.map_cons, List.append_assoc]
      rfl
    · rw [runAll_cons_error (by exact hport)]
      exact ⟨[], List.nil_prefix, (List.append_nil _).symm, nofun⟩

theorem syncPorts_trace (m : Machine) : ∃ inserted, inserted <+: m.engine.watch.ports ∧
    (syncPorts m).2.kernel.trace = m.kernel.trace ++ inserted.map .insertion ∧
      ((syncPorts m).1 = .ok () → inserted = m.engine.watch.ports) := by
  have hsame := check_snd (fun m => (m.kernel.mapFault Object.watchedPorts "hash").map mapError) m
  unfold syncPorts
  rcases hcheck : check (fun m => (m.kernel.mapFault Object.watchedPorts "hash").map mapError) m with ⟨e | _, m'⟩
  · rw [hcheck] at hsame
    rw [runAll_cons_error hcheck, show m' = m from hsame]
    exact ⟨[], List.nil_prefix, (List.append_nil _).symm, nofun⟩
  · rw [hcheck] at hsame
    rw [runAll_cons_ok hcheck, show m' = m from hsame]
    obtain ⟨inserted, hinitial, htrace, hall⟩ := syncEach_trace m.engine.watch.ports m
    refine ⟨inserted, hinitial, ?_⟩
    rcases hsync : runAll (m.engine.watch.ports.map syncPort) m with ⟨e | _, m''⟩
    · rw [hsync] at htrace
      rw [runAll_cons_error hsync]
      exact ⟨htrace, nofun⟩
    · rw [hsync] at htrace hall
      rw [runAll_cons_ok hsync]
      exact ⟨htrace, fun _ => hall rfl⟩

/-- What a start adds to the trace: at first calls about the object, then the ports, and then, only once all of them are
    inserted, the calls that link programs. -/
structure PortsFirst (m : Machine) (h : Host) (first : List KernelEvent) (inserted : List UInt16)
    (last : List KernelEvent) : Prop where
  object : ∀ e ∈ first, e.kind = .object
  initial : inserted <+: m.engine.watch.ports
  no_port : ∀ e ∈ last, e.kind ≠ .port
  complete : ∀ e ∈ last, e.kind = .link → inserted = m.engine.watch.ports ∧
    ∀ o, h.object? m.engine.settings.base.programPath = some o → o.Watches m.engine.watch.ports

theorem portsFirst_nil (m : Machine) (h : Host) : m.PortsFirst h [] [] [] := ⟨nofun, List.nil_prefix, nofun, nofun⟩

theorem setUp_trace (h : Host) (m : Machine) : ∃ first inserted last, m.PortsFirst h first inserted last ∧
    (setUp h m).2.kernel.trace = m.kernel.trace ++ (first ++ inserted.map .insertion ++ last) := by
  unfold setUp
  rcases loadObject_cases h m with ⟨o, w, r, hl, t₁, hload⟩ | ⟨-, e, hload⟩
  case inr =>
    rw [runAll_cons_error hload]
    exact ⟨[], [], [], m.portsFirst_nil h, by simp⟩
  -- The object is loaded and the log is set up; neither is about a port.
  have hlogger := notes_initLogger (m.after (m.loadedKernel h o w r) t₁)
  rcases yields_initLogger (m := m.after (m.loadedKernel h o w r) t₁) with ⟨-, _, t₂, hinit⟩ | ⟨hn, -⟩
  case inr => exact absurd trivial hn
  rw [runAll_cons_ok hload, runAll_cons_ok hinit]
  rw [hinit] at hlogger
  obtain ⟨events, -, htrace, hevents, -⟩ := hlogger.continues
  generalize hm₂ : Machine.after _ _ _ = m₂ at htrace ⊢
  have hwatch : m₂.engine.watch = m.engine.watch := by rw [← hm₂]; rfl
  have hobject : m₂.Holds o := by rw [← hm₂]; exact ⟨rfl, rfl⟩
  let path := m.engine.settings.base.programPath
  have hfirst : ∀ e ∈ KernelEvent.loadObject path w r :: events, e.kind = .object := by
    simpa [KernelEvent.kind] using hevents
  have htrace₂ : m₂.kernel.trace = m.kernel.trace ++ .loadObject path w r :: events := by
    rw [htrace]
    exact List.append_assoc _ _ _
  obtain ⟨inserted, hinitial, hinserted, hall⟩ := syncPorts_trace m₂
  rw [hwatch] at hinitial hall
  rcases yields_syncPorts hobject (congrArg WatchList.ports hwatch) with
    ⟨hready, _, _, hsync⟩ | ⟨-, e, _, _, _, _, hsync⟩
  case inr =>
    rw [hsync] at hinserted
    rw [runAll_cons_error hsync]
    exact ⟨_, inserted, [], ⟨hfirst, hinitial, by simp, by simp⟩, by rw [hinserted, htrace₂]; simp⟩
  -- Every port is inserted; from here on programs are linked.
  have hlinks : (runAll [attachMode h, startPoller, always fun m => m.log .loader .info "frame engine attached"
      [("interface", .text m.interface), ("mode", .text m.engine.mode.text)]]).Notes (·.kind = .link) := by
    refine notes_runAll fun s hs => ?_
    simp only [List.mem_cons, List.not_mem_nil, or_false] at hs
    rcases hs with rfl | rfl | rfl
    · exact notes_attachMode h
    · exact notes_startPoller
    · exact notes_log
  obtain ⟨last, -, hlinked, hlast, -⟩ := (hlinks (syncPorts m₂).2).continues
  have hcomplete : inserted = m.engine.watch.ports := hall (by rw [hsync])
  rw [hsync] at hinserted hlinked
  rw [runAll_cons_ok hsync]
  refine ⟨_, inserted, last, ⟨hfirst, hinitial, fun e he => ?_, fun e he _ => ⟨hcomplete, fun o' ho' => ?_⟩⟩, ?_⟩
  · rw [hlast e he]
    decide
  · rw [hl.object] at ho'
    cases ho'
    exact hready
  · rw [hlinked, hinserted, htrace₂]
    simp

theorem start_trace (h : Host) (m : Machine) : ∃ first inserted last, m.PortsFirst h first inserted last ∧
    (m.start h).2.kernel.trace = m.kernel.trace ++ (first ++ inserted.map .insertion ++ last) := by
  cases hrunning : m.engine.running with
  | true => exact ⟨[], [], [], m.portsFirst_nil h, by simp [start, hrunning]⟩
  | false =>
    obtain ⟨t, hstart⟩ := start_eq hrunning h
    obtain ⟨first, inserted, last, hp, htrace⟩ := setUp_trace h (m.after m.kernel t)
    have hp : m.PortsFirst h first inserted last := ⟨hp.object, hp.initial, hp.no_port, hp.complete⟩
    rw [hstart]
    rcases hsetUp : setUp h (m.after m.kernel t) with ⟨e | _, m'⟩
    · rw [hsetUp] at htrace
      -- A start that fails may give the object up, which is its last call.
      cases hloaded : m'.kernel.loaded with
      | false =>
        refine ⟨first, inserted, last, hp, ?_⟩
        simp only [giveUp, hloaded]
        exact htrace
      | true =>
        refine ⟨first, inserted, last ++ [.unloadObject],
          ⟨hp.object, hp.initial, fun e he => ?_, fun e he hkind => ?_⟩, ?_⟩
        · rcases List.mem_append.mp he with he | he
          · exact hp.no_port e he
          · cases List.mem_singleton.mp he
            decide
        · rcases List.mem_append.mp he with he | he
          · exact hp.complete e he hkind
          · cases List.mem_singleton.mp he
            cases hkind
        · simp only [giveUp, hloaded]
          show m'.kernel.trace ++ [.unloadObject] = _
          rw [htrace]
          simp
    · rw [hsetUp] at htrace
      exact ⟨first, inserted, last, hp, htrace⟩

/-! ### While programs are linked -/

/-- Runs on packets leave the map of watched ports alone. -/
theorem run_watched (maps : KernelMaps) (program : Program) (packet : Frame) (cpu : Nat) :
    (maps.run program packet cpu).2.watched = maps.watched := by
  have hobserve : (maps.observe packet cpu).watched = maps.watched := by
    obtain ⟨ring, counters, log, heq, -, -⟩ := maps.observe_eq packet cpu
    rw [heq]
  cases program with
  | portFilter =>
    obtain ⟨log, heq⟩ := maps.run_portFilter packet cpu
    rw [heq]
    rfl
  | tcIngress => exact hobserve
  | tcEgress => exact hobserve

theorem runLinks_watched (links : List Link) (k : Kernel) (packet : Frame) (cpu : Nat) :
    (Kernel.runLinks packet cpu links k).2.maps.watched = k.maps.watched := by
  induction links generalizing k with
  | nil => rfl
  | cons l rest ih =>
    have hlink : (k.runLink packet cpu l).2.maps.watched = k.maps.watched := by
      rw [← run_watched k.maps l.program packet cpu]
      unfold Kernel.runLink
      simp only
      split
      · split <;> rfl
      · rfl
    exact (ih _).trans hlink

/-- What an engine was built from stays as it is. -/
theorem step_built (m : Machine) (h : Host) (s : MachineStep) :
    (m.step h s).2.engine.settings = m.engine.settings ∧ (m.step h s).2.engine.watch = m.engine.watch := by
  have hsettle (m : Machine) :
      m.settle.engine.settings = m.engine.settings ∧ m.settle.engine.watch = m.engine.watch := by
    obtain ⟨_, tasks, ⟨_, _, _, rfl⟩, hsettle, -⟩ := Settles.settle m
    rw [hsettle]
    exact ⟨rfl, rfl⟩
  cases s with
  | start =>
    show (m.start h).2.engine.settings = _ ∧ (m.start h).2.engine.watch = _
    cases hrunning : m.engine.running with
    | true => simp [start, hrunning]
    | false =>
      rcases hs : m.start h with ⟨e | _, m₁⟩
      · cases start_error hrunning hs <;> exact ⟨rfl, rfl⟩
      · obtain ⟨-, o, w, r, -, -, -, events, t, rfl⟩ := start_ok hs
        exact ⟨rfl, rfl⟩
  | stop =>
    show m.stop.2.engine.settings = _ ∧ m.stop.2.engine.watch = _
    unfold stop
    split <;> exact ⟨rfl, rfl⟩
  | settle => exact hsettle m
  | tick seconds =>
    have hpass : (m.settle.pass seconds).engine = m.settle.engine := rfl
    have hlast := hsettle (m.settle.pass seconds)
    rw [hpass, (hsettle m).1, (hsettle m).2] at hlast
    exact hlast
  | _ => exact ⟨rfl, rfl⟩

/-- The engine watches the ports of its settings, and when a program is linked so does the kernel, whose map has room
    for them. -/
structure Armed (m : Machine) : Prop where
  built : m.engine.settings.watchList = .ok m.engine.watch
  linked : m.kernel.links ≠ [] →
    m.kernel.maps.watched = m.engine.watch.ports ∧ m.engine.watch.ports.length ≤ m.kernel.watchMapSize

theorem watchList_ok {settings : EngineSettings} {w : WatchList} (hw : settings.watchList = .ok w) :
    w.ports.Pairwise (· < ·) ∧ w.ports.length ≤ settings.base.watchListLimit := by
  unfold EngineSettings.watchList at hw
  simp only [bind, Except.bind] at hw
  split at hw
  · cases hw
  rename_i hports
  split at hw <;> cases hw
  rename_i hroom
  exact ⟨WatchList.pairwise_of_ofPorts hports, Nat.le_of_not_lt hroom⟩

theorem Armed.start (ha : m.Armed) (ht : m.Tidy) (h : Host) : (m.start h).2.Armed := by
  obtain ⟨hsettings, hwatch⟩ := m.step_built h .start
  have hbuilt : (m.start h).2.engine.settings.watchList = .ok (m.start h).2.engine.watch := by
    rw [show (m.start h).2.engine.settings = _ from hsettings, show (m.start h).2.engine.watch = _ from hwatch]
    exact ha.built
  refine ⟨hbuilt, ?_⟩
  cases hrunning : m.engine.running with
  | true =>
    simp only [Machine.start, hrunning, if_true]
    exact ha.linked
  | false =>
    rcases hs : m.start h with ⟨e | _, m₁⟩
    · intro hlinks
      exact absurd ((start_error hrunning hs).idle (ht.idle hrunning)).links hlinks
    · obtain ⟨-, o, w, r, hl, -, -, events, t, rfl⟩ := start_ok hs
      refine fun _ => ⟨rfl, ?_⟩
      have hsize := hl.watchSize
      unfold EngineSettings.watchMapSize at hsize
      split at hsize <;> cases hsize
      exact (watchList_ok ha.built).2

theorem Armed.congr {m' : Machine} (ha : m.Armed) (hsettings : m'.engine.settings = m.engine.settings)
    (hwatch : m'.engine.watch = m.engine.watch) (hlinks : m'.kernel.links = m.kernel.links)
    (hwatched : m'.kernel.maps.watched = m.kernel.maps.watched)
    (hsize : m'.kernel.watchMapSize = m.kernel.watchMapSize) : m'.Armed := by
  refine ⟨by rw [hsettings, hwatch]; exact ha.built, fun hne => ?_⟩
  rw [hwatched, hwatch, hsize]
  exact ha.linked (by rwa [hlinks] at hne)

theorem Armed.settle (ha : m.Armed) : m.settle.Armed := by
  obtain ⟨_, tasks, ⟨_, _, _, rfl⟩, hsettle, -⟩ := Settles.settle m
  rw [hsettle]
  exact ha.congr rfl rfl rfl rfl rfl

theorem Armed.step (ha : m.Armed) (ht : m.Tidy) (h : Host) (s : MachineStep) : (m.step h s).2.Armed := by
  cases s with
  | start => exact ha.start ht h
  | stop =>
    show m.stop.2.Armed
    unfold Machine.stop
    split
    · exact ha
    · exact ⟨ha.built, fun hne => absurd rfl hne⟩
  | inject packet d cpu =>
    obtain ⟨maps, inbox, hkernel⟩ := m.kernel.inject_eq packet d cpu
    have hwatched : (m.kernel.inject packet d cpu).2.maps.watched = m.kernel.maps.watched := runLinks_watched _ _ _ _
    have hlinks : (m.kernel.inject packet d cpu).2.links = m.kernel.links := by rw [hkernel]
    have hsize : (m.kernel.inject packet d cpu).2.watchMapSize = m.kernel.watchMapSize := by rw [hkernel]
    exact ha.congr rfl rfl hlinks hwatched hsize
  | settle => exact ha.settle
  | tick seconds =>
    have hpass : (m.settle.pass seconds).Armed := ha.settle.congr rfl rfl rfl rfl rfl
    exact hpass.settle
  | _ => exact ha.congr rfl rfl rfl rfl rfl

theorem Reachable.armed (hm : m.Reachable) : m.Armed := by
  induction hm with
  | @built settings _ _ engine hb =>
    refine ⟨?_, fun hne => absurd rfl hne⟩
    unfold Engine.build at hb
    cases settings with
    | none => cases hb
    | some s =>
      simp only [bind, Except.bind] at hb
      split at hb
      · cases hb
      split at hb
      · cases hb
      rename_i hwatch
      split at hb <;> cases hb
      exact hwatch
  | step hm h s ih => exact ih.step hm.tidy h s

/-! ### The whole of a start -/

theorem PortsFirst.filter_port {h : Host} {first last : List KernelEvent} {inserted : List UInt16}
    (hp : m.PortsFirst h first inserted last) {rest : List KernelEvent} (hrest : ∀ e ∈ rest, e ∈ last) :
    (first ++ inserted.map KernelEvent.insertion ++ rest).filter (·.kind = .port) = inserted.map .insertion := by
  have hfirst : first.filter (·.kind = .port) = [] := by
    rw [List.filter_eq_nil_iff]
    intro e he
    simp [hp.object e he]
  have hinserted : (inserted.map KernelEvent.insertion).filter (·.kind = .port) = inserted.map .insertion := by
    rw [List.filter_eq_self]
    intro e he
    simp [KernelEvent.kind_of_mem_insertions he]
  have hrest : rest.filter (·.kind = .port) = [] := by
    rw [List.filter_eq_nil_iff]
    intro e he
    simp [hp.no_port e (hrest e he)]
  rw [List.filter_append, List.filter_append, hfirst, hinserted, hrest, List.nil_append, List.append_nil]

/-- What comes before and behind a call that links a program: every port is inserted before it, and none behind. -/
theorem PortsFirst.split {h : Host} {first last before behind : List KernelEvent} {inserted : List UInt16}
    {event : KernelEvent} (hp : m.PortsFirst h first inserted last) (hevent : event.kind = .link)
    (hsplit : first ++ inserted.map .insertion ++ last = before ++ event :: behind) :
    before.filter (·.kind = .port) = m.engine.watch.ports.map .insertion ∧
      behind.filter (·.kind = .port) = [] := by
  have hearly : event ∉ first ++ inserted.map KernelEvent.insertion := by
    intro he
    rcases List.mem_append.mp he with he | he
    · have := hp.object event he
      rw [hevent] at this
      cases this
    · have := KernelEvent.kind_of_mem_insertions he
      rw [hevent] at this
      cases this
  have hlate : ∃ between, before = first ++ inserted.map .insertion ++ between ∧
      last = between ++ event :: behind := by
    rcases List.append_eq_append_iff.mp hsplit with ⟨between, hbefore, hlast⟩ | ⟨between, hbefore, hlast⟩
    · exact ⟨between, hbefore, hlast⟩
    · cases between with
      | nil => exact ⟨[], by simpa using hbefore.symm, by simpa using hlast.symm⟩
      | cons e rest =>
        cases hlast
        exact absurd (by rw [hbefore]; simp) hearly
  obtain ⟨between, hbefore, hlast⟩ := hlate
  obtain ⟨hcomplete, -⟩ := hp.complete event (by rw [hlast]; simp) hevent
  refine ⟨?_, ?_⟩
  · rw [hbefore, hp.filter_port (by rw [hlast]; simp +contextual), hcomplete]
  · rw [List.filter_eq_nil_iff]
    intro e he
    simp [hp.no_port e (by rw [hlast]; simp [he])]

/-- No program runs with an incomplete map of watched ports. In what any start adds to the trace of the kernel, the
    ports of the engine, which ascend, are inserted one after the other, each once with value 1 and flags 0, and all of
    them before any program is attached. If one cannot be inserted, or the map cannot be used, the start fails and the
    trace has no call to the interface or a program. So whenever a program is linked, the map holds just the ports of the
    engine, and no more than it was loaded for. -/
theorem programs_run_with_all_ports (hm : m.Reachable) (h : Host) :
    let ports := m.engine.watch.ports
    ports.Pairwise (· < ·) ∧
      (∃ added, (m.start h).2.kernel.trace = m.kernel.trace ++ added ∧
        added.filter (·.kind = .port) <+: ports.map .insertion ∧
        (∀ before p point behind, added = before ++ .attach p point :: behind →
          before.filter (·.kind = .port) = ports.map .insertion ∧ behind.filter (·.kind = .port) = []) ∧
        (∀ o, h.object? m.engine.settings.base.programPath = some o → ¬o.Watches ports →
          (∃ e, (m.start h).1 = .error e) ∧ ∀ e ∈ added, e.kind ≠ .link)) ∧
      (m.kernel.links ≠ [] → m.kernel.maps.watched = ports ∧ ports.length ≤ m.kernel.watchMapSize) := by
  intro ports
  have harmed := hm.armed
  obtain ⟨first, inserted, last, hp, htrace⟩ := start_trace h m
  refine ⟨(watchList_ok harmed.built).1, ⟨_, htrace, ?_, ?_, ?_⟩, harmed.linked⟩
  · rw [hp.filter_port fun _ => id]
    exact hp.initial.map _
  · intro before p point behind hsplit
    exact hp.split rfl hsplit
  · intro o ho hwatches
    constructor
    · rcases hs : m.start h with ⟨e | _, m₁⟩
      · exact ⟨e, rfl⟩
      · obtain ⟨-, o', w, r, hl, ha, -⟩ := start_ok hs
        rw [hl.object] at ho
        cases ho
        exact absurd ha.1 hwatches
    · intro e he hlink
      rcases List.mem_append.mp he with he | he
      · rcases List.mem_append.mp he with he | he
        · rw [hp.object e he] at hlink
          cases hlink
        · rw [KernelEvent.kind_of_mem_insertions he] at hlink
          cases hlink
      · exact hwatches ((hp.complete e he hlink).2 o ho)

/-- The filter is attached once port 8000 is in its map. Where that port cannot be inserted the start fails, and no
    program is loaded or attached. -/
theorem programs_run_with_all_ports_standard :
    let refusing := Host.holding ⟨Object.standardMaps, Object.standardPrograms, [(.insertPort 8000, "no room")]⟩
    let m := Machine.create (.standard .enforce)
    let m₁ := (m.start (.holding .standard)).2
    (∃ before, m₁.kernel.trace = before ++ [.attach .portFilter .socket] ∧
        before.filter (·.kind = .port) = [.insertPort 8000 1 0]) ∧
      m₁.kernel.maps.watched = [8000] ∧
      (∃ e, (m.start refusing).1 = .error e) ∧ ∀ e ∈ (m.start refusing).2.kernel.trace, e.kind ≠ .link := by
  intro refusing m m₁
  have hm : m.Reachable := .built (Engine.build_standard .enforce)
  have hm₁ : m₁.Reachable := hm.start (.holding .standard)
  obtain ⟨-, ⟨added, htrace, -, hattached, -⟩, -⟩ := programs_run_with_all_ports hm (.holding .standard)
  obtain ⟨-, -, hlinked⟩ := programs_run_with_all_ports hm₁ (.holding .standard)
  obtain ⟨-, ⟨added', htrace', -, -, hrefused⟩, -⟩ := programs_run_with_all_ports hm refusing
  obtain ⟨herror, hkinds⟩ := hrefused _ rfl (by intro hw; cases hw.2 8000 (by decide))
  have hsplit : m₁.kernel.trace = m₁.kernel.trace.dropLast ++ [.attach .portFilter .socket] := by decide
  have hports : m₁.engine.watch.ports = [8000] := by decide
  exact ⟨⟨_, hsplit, (hattached _ .portFilter .socket [] (htrace.symm.trans hsplit)).1⟩,
    (hlinked (by decide)).1.trans hports, herror, by rw [htrace']; exact hkinds⟩

end Machine
end FrameSentry
