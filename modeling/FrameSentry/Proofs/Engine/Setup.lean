import FrameSentry.Engine.Attachment
import FrameSentry.Proofs.Engine.Outlets

/-! What a start of the engine comes to. Every step of a start changes the kernel and what is told, and
    nothing else; only the last step of linking and the last step of all start a task. So a start ends in
    one of four ways: the object is not loaded; it is loaded and something that the engine's mode needs is
    missing; all of that is there but the counters cannot be polled, when the reader runs already; or
    everything is there. Which of them it is depends on the host, the settings and the object alone. -/

namespace FrameSentry

/-! ### What an object must have -/

namespace Object

/-- The ports can be put into the object's map of watched ports. -/
def Watches (o : Object) (ports : List UInt16) : Prop :=
  o.mapFault watchedPorts "hash" = none ∧ ∀ p ∈ ports, o.faults.lookup (.insertPort p) = none

/-- A program can be loaded and linked. -/
def Runs (o : Object) (p : Program) : Prop :=
  o.programFault p.name p.type = none ∧ o.faults.lookup (.loadProgram p.name) = none ∧
    o.faults.lookup (.attachProgram p.name) = none

/-- Both observers can be linked, and there is a ring to read. -/
def Observes (o : Object) : Prop :=
  o.Runs .tcIngress ∧ o.Runs .tcEgress ∧ o.mapFault events "ringbuf" = none

/-- The counters can be polled. -/
def Counts (o : Object) : Prop := o.mapFault statistics "percpu_array" = none

end Object

/-- A raw packet socket can be opened and bound to an interface: the interface has a name that a call can be
    given and an index that a socket can be bound to. -/
def Host.OpensSocket (h : Host) (interface : String) : Prop :=
  h.socketFault? = none ∧ '\x00' ∉ interface.toList ∧
    (∃ index ≤ 2147483647, h.interfaces.lookup interface = some index) ∧ h.bindFault? interface = none

theorem Host.interfaceIndex_eq_ok {h : Host} {name : String} {index : Nat} :
    h.interfaceIndex name = .ok index ↔
      '\x00' ∉ name.toList ∧ index ≤ 2147483647 ∧ h.interfaces.lookup name = some index := by
  unfold Host.interfaceIndex
  by_cases hnul : '\x00' ∈ name.toList
  · simp [hnul]
  cases h.interfaces.lookup name with
  | none => simp [hnul]
  | some found =>
    by_cases hfound : found ≤ 2147483647
    · simp only [List.contains_iff_mem, hnul, if_false, hfound, if_true, Except.ok.injEq, Option.some.injEq]
      constructor
      · rintro rfl
        exact ⟨not_false, hfound, rfl⟩
      · exact fun hi => hi.2.2
    · simp only [List.contains_iff_mem, hnul, if_false, hfound, Option.some.injEq]
      refine ⟨nofun, fun hi => ?_⟩
      exact absurd (hi.2.2 ▸ hi.2.1) hfound

/-- The programs of the engine's mode can be linked. -/
def Machine.Links (m : Machine) (h : Host) (o : Object) : Prop :=
  match m.engine.mode with
  | .capture => o.Observes
  | .enforce => h.OpensSocket m.interface ∧ o.Runs .portFilter

/-- The watched ports can be put into their map, and the programs linked. -/
def Machine.Attaches (m : Machine) (h : Host) (o : Object) : Prop :=
  o.Watches m.engine.watch.ports ∧ m.Links h o

/-- The engine's settings name an object, and give its maps sizes that a kernel can have. -/
structure Machine.Loads (m : Machine) (h : Host) (o : Object) (watchSize ringSize : Nat) : Prop where
  watchSize : m.engine.settings.watchMapSize = .ok watchSize
  ringSize : m.engine.settings.ringSize h.pageSize = .ok ringSize
  object : h.object? m.engine.settings.base.programPath = some o

/-- The reader of a mode, for the outlet of a load. -/
def Mode.reader : Mode → Nat → Job
  | .capture, load => .readRing load
  | .enforce, load => .readSocket load

/-- The links of a mode. -/
def Mode.links (interface : String) : Mode → List Link
  | .capture => [⟨.tcIngress, .ingress interface⟩, ⟨.tcEgress, .egress interface⟩]
  | .enforce => [⟨.portFilter, .socket⟩]

/-! ### What a step changes -/

/-- The kernel with more watched ports, more links and a longer trace. -/
def Kernel.grown (k : Kernel) (ports : List UInt16) (links : List Link) (events : List KernelEvent) : Kernel :=
  { k with
    maps := { k.maps with watched := k.maps.watched ++ ports }
    links := k.links ++ links
    trace := k.trace ++ events }

@[simp] theorem Kernel.grown_grown (k : Kernel) (ports ports' : List UInt16) (links links' : List Link)
    (events events' : List KernelEvent) : (k.grown ports links events).grown ports' links' events' =
      k.grown (ports ++ ports') (links ++ links') (events ++ events') := by
  simp [Kernel.grown]

@[simp] theorem Kernel.grown_nil (k : Kernel) : k.grown [] [] [] = k := by
  simp [Kernel.grown]

theorem Kernel.call_of_none {k : Kernel} {c : KernelCall} (h : k.fault? c = none) (e : KernelEvent) :
    k.call c e = .ok (k.grown [] [] [e]) := by
  simp [Kernel.call, h, Kernel.note, Kernel.grown]

theorem Kernel.call_of_some {k : Kernel} {c : KernelCall} {reason : String} (h : k.fault? c = some reason)
    (e : KernelEvent) : k.call c e = .error reason := by
  simp [Kernel.call, h]

/-- The machine with another kernel and other telemetry. -/
def Machine.after (m : Machine) (k : Kernel) (t : Telemetry) : Machine := { m with kernel := k }.setTelemetry t

@[simp] theorem Machine.after_after (m : Machine) (k k' : Kernel) (t t' : Telemetry) :
    (m.after k t).after k' t' = m.after k' t' := rfl

@[simp] theorem Machine.after_kernel (m : Machine) (k : Kernel) (t : Telemetry) : (m.after k t).kernel = k := rfl

/-- The object that the kernel holds, and just those calls fail that fail with it. -/
def Machine.Holds (m : Machine) (o : Object) : Prop := m.kernel.object = some o ∧ m.kernel.faults = o.faults

theorem Machine.Holds.after {m : Machine} {o : Object} (ho : m.Holds o) {ports : List UInt16} {links : List Link}
    {events : List KernelEvent} {t : Telemetry} : (m.after (m.kernel.grown ports links events) t).Holds o := ho

theorem Machine.log_eq (m : Machine) (c : Component) (level : Level) (message : String)
    (fields : List (String × FieldValue)) :
    m.log c level message fields = m.after m.kernel (m.telemetry.log c level message fields) := rfl

namespace SetupStep
variable {m : Machine}

/-- What a step that starts no task comes to: if what it needs is there, it succeeds and adds just these
    ports and links; otherwise it fails, and may have added some. -/
def Yields (s : SetupStep) (m : Machine) (ready : Prop) (ports : List UInt16) (links : List Link) : Prop :=
  (ready ∧ ∃ events t, s m = (.ok (), m.after (m.kernel.grown ports links events) t)) ∨
    (¬ready ∧ ∃ e ports links events t, s m = (.error e, m.after (m.kernel.grown ports links events) t))

theorem Yields.congr {s : SetupStep} {r r' : Prop} {ports ports' : List UInt16} {links links' : List Link}
    (h : s.Yields m r ports links) (hr : r ↔ r') (hp : ports = ports') (hl : links = links') :
    s.Yields m r' ports' links' := by
  subst hp hl
  rcases h with ⟨h, hs⟩ | ⟨h, hs⟩
  · exact Or.inl ⟨hr.mp h, hs⟩
  · exact Or.inr ⟨fun h' => h (hr.mpr h'), hs⟩

/-- A step that changes nothing but what is told. -/
theorem yields_told {s : SetupStep} {t : Telemetry} (h : s m = (.ok (), m.after m.kernel t)) :
    s.Yields m True [] [] :=
  Or.inl ⟨trivial, [], t, by rw [Kernel.grown_nil]; exact h⟩

theorem yields_log {c : Component} {level : Level} {message : String}
    {fields : Machine → List (String × FieldValue)} :
    (always fun m => m.log c level message (fields m)).Yields m True [] [] :=
  yields_told rfl

/-- Steps that are chosen by the machine at which they begin. -/
theorem yields_run {steps : Machine → List SetupStep} {r : Prop} {ports : List UInt16} {links : List Link}
    (h : (runAll (steps m)).Yields m r ports links) : SetupStep.Yields (fun m => runAll (steps m) m) m r ports links :=
  h

theorem yields_check {fault : Machine → Option Error} : (check fault).Yields m (fault m = none) [] [] := by
  unfold check
  cases hf : fault m with
  | none => exact Or.inl ⟨rfl, [], m.telemetry, by simp only [hf, Kernel.grown_nil]; rfl⟩
  | some e =>
    refine Or.inr ⟨nofun, e, [], [], [], m.telemetry, ?_⟩
    simp only [hf, Kernel.grown_nil]
    rfl

/-- A call whose success only grows the kernel. -/
theorem yields_call {f : Kernel → Except String Kernel} {describe : String → Error} {c : KernelCall}
    {ports : List UInt16} {links : List Link} (events : List KernelEvent)
    (hok : m.kernel.fault? c = none → f m.kernel = .ok (m.kernel.grown ports links events))
    (herror : ∀ reason, m.kernel.fault? c = some reason → f m.kernel = .error reason) :
    (call f describe).Yields m (m.kernel.fault? c = none) ports links := by
  unfold call
  cases hc : m.kernel.fault? c with
  | none => exact Or.inl ⟨rfl, events, m.telemetry, by simp only [hok hc]; rfl⟩
  | some reason =>
    refine Or.inr ⟨nofun, describe reason, [], [], [], m.telemetry, ?_⟩
    simp only [herror reason hc, Kernel.grown_nil]
    rfl

/-- A call that is only attempted never fails. -/
theorem yields_attempt {c : KernelCall} {e : KernelEvent} {tell : String → Machine → Machine}
    (htell : ∀ reason, ∃ t, tell reason m = m.after m.kernel t) :
    (attempt (fun k => k.call c e) tell).Yields m True [] [] := by
  unfold attempt
  cases hc : m.kernel.fault? c with
  | none => exact Or.inl ⟨trivial, [e], m.telemetry, by simp only [Kernel.call_of_none hc]; rfl⟩
  | some reason =>
    obtain ⟨t, ht⟩ := htell reason
    exact Or.inl ⟨trivial, [], t, by simp only [Kernel.call_of_some hc, ht, Kernel.grown_nil]⟩

theorem yields_nil : (runAll []).Yields m True [] [] :=
  yields_told (t := m.telemetry) rfl

/-- Steps one after the other need what each of them needs. -/
theorem yields_cons {s : SetupStep} {rest : List SetupStep} {r r' : Prop} {ports ports' : List UInt16}
    {links links' : List Link} (hs : s.Yields m r ports links)
    (hrest : ∀ events t, (runAll rest).Yields (m.after (m.kernel.grown ports links events) t) r' ports' links') :
    (runAll (s :: rest)).Yields m (r ∧ r') (ports ++ ports') (links ++ links') := by
  rcases hs with ⟨hr, events, t, hs⟩ | ⟨hr, e, ps, ls, events, t, hs⟩
  · rcases hrest events t with ⟨hr', events', t', h⟩ | ⟨hr', e, ps, ls, events', t', h⟩
    · refine Or.inl ⟨⟨hr, hr'⟩, events ++ events', t', ?_⟩
      simpa [runAll, hs] using h
    · refine Or.inr ⟨fun h' => hr' h'.2, e, ports ++ ps, links ++ ls, events ++ events', t', ?_⟩
      simpa [runAll, hs] using h
  · refine Or.inr ⟨fun h' => hr h'.1, e, ps, ls, events, t, ?_⟩
    simp [runAll, hs]

theorem runAll_cons_ok {s : SetupStep} {m' : Machine} (hs : s m = (.ok (), m')) (rest : List SetupStep) :
    runAll (s :: rest) m = runAll rest m' := by
  simp only [runAll, hs]

theorem runAll_cons_error {s : SetupStep} {e : Error} {m' : Machine} (hs : s m = (.error e, m'))
    (rest : List SetupStep) : runAll (s :: rest) m = (.error e, m') := by
  simp only [runAll, hs]

/-- Steps in two parts run as the first part and, if that succeeds, the second. -/
theorem runAll_append_ok {first : List SetupStep} {m' : Machine} (hs : runAll first m = (.ok (), m'))
    (second : List SetupStep) : runAll (first ++ second) m = runAll second m' := by
  induction first generalizing m with
  | nil =>
    cases hs
    rfl
  | cons s rest ih =>
    rcases h₁ : s m with ⟨e | _, m₁⟩
    · rw [runAll_cons_error h₁] at hs
      cases hs
    · rw [runAll_cons_ok h₁] at hs
      exact (runAll_cons_ok h₁ _).trans (ih hs)

theorem runAll_append_error {first : List SetupStep} {e : Error} {m' : Machine} (hs : runAll first m = (.error e, m'))
    (second : List SetupStep) : runAll (first ++ second) m = (.error e, m') := by
  induction first generalizing m with
  | nil => cases hs
  | cons s rest ih =>
    rcases h₁ : s m with ⟨e | _, m₁⟩
    · rw [runAll_cons_error h₁] at hs
      cases hs
      exact runAll_cons_error h₁ _
    · rw [runAll_cons_ok h₁] at hs
      exact (runAll_cons_ok h₁ _).trans (ih hs)

end SetupStep

/-! ### The steps of a start -/

namespace Machine
open SetupStep
variable {m : Machine} {o : Object}

namespace Holds

theorem fault?_eq (ho : m.Holds o) (c : KernelCall) : m.kernel.fault? c = o.faults.lookup c := by
  unfold Kernel.fault?
  rw [ho.2]

theorem mapFault_eq (ho : m.Holds o) (name type : String) : m.kernel.mapFault name type = o.mapFault name type := by
  unfold Kernel.mapFault
  rw [ho.1, Option.bind_some]

theorem programFault_eq (ho : m.Holds o) (p : Program) :
    m.kernel.programFault p = o.programFault p.name p.type := by
  unfold Kernel.programFault
  rw [ho.1, Option.bind_some]

end Holds

theorem yields_initLogger : initLogger.Yields m True [] [] :=
  yields_attempt fun _ => ⟨_, rfl⟩

theorem yields_checkMap (ho : m.Holds o) (name type : String) :
    (check fun m => (m.kernel.mapFault name type).map mapError).Yields m (o.mapFault name type = none) [] [] :=
  yields_check.congr (by rw [ho.mapFault_eq, Option.map_eq_none_iff]) rfl rfl

theorem yields_checkProgram (ho : m.Holds o) (p : Program) :
    (check fun m => (m.kernel.programFault p).map programError).Yields m (o.programFault p.name p.type = none)
      [] [] :=
  yields_check.congr (by rw [ho.programFault_eq, Option.map_eq_none_iff]) rfl rfl

theorem yields_syncPort (ho : m.Holds o) (port : UInt16) :
    (syncPort port).Yields m (o.faults.lookup (.insertPort port) = none) [port] [] := by
  refine (yields_call [.insertPort port 1 0] ?_ ?_).congr (by rw [ho.fault?_eq]) rfl rfl
  · intro hc
    simp [Kernel.insertPort, Kernel.call_of_none hc, bind, Except.bind, pure, Except.pure, Kernel.grown]
  · intro reason hc
    simp [Kernel.insertPort, Kernel.call_of_some hc, bind, Except.bind]

/-- The ports are put into the map one after the other, up to the first that fails. -/
theorem yields_syncEach (ho : m.Holds o) (ports : List UInt16) :
    (runAll (ports.map syncPort)).Yields m (∀ p ∈ ports, o.faults.lookup (.insertPort p) = none) ports [] := by
  induction ports generalizing m with
  | nil => exact yields_nil.congr (by simp) rfl rfl
  | cons port rest ih =>
    exact (yields_cons (yields_syncPort ho port) fun _ _ => ih ho.after).congr (by simp) rfl rfl

theorem yields_syncPorts (ho : m.Holds o) {ports : List UInt16} (hp : m.engine.watch.ports = ports) :
    syncPorts.Yields m (o.Watches ports) ports [] := by
  subst hp
  unfold syncPorts
  refine yields_run (Yields.congr (yields_cons (yields_checkMap ho _ _) fun _ _ =>
    yields_cons (yields_syncEach ho.after _) fun _ _ =>
    yields_cons yields_log fun _ _ => yields_nil) ?_ (by simp) rfl)
  simp [Object.Watches]

/-- The log of the kernel programs and the map of watched ports. -/
theorem yields_tables (ho : m.Holds o) {ports : List UInt16} (hp : m.engine.watch.ports = ports) :
    (runAll [initLogger, syncPorts]).Yields m (o.Watches ports) ports [] :=
  Yields.congr (yields_cons yields_initLogger fun _ _ =>
    yields_cons (yields_syncPorts ho.after hp) fun _ _ => yields_nil) (by simp) (by simp) rfl

theorem yields_loadProgram (ho : m.Holds o) (p : Program) (describe : String → Error) :
    (call (·.loadProgram p) describe).Yields m (o.faults.lookup (.loadProgram p.name) = none) [] [] :=
  (yields_call [.loadProgram p] (fun hc => Kernel.call_of_none hc _)
    (fun _ hc => Kernel.call_of_some hc _)).congr (by rw [ho.fault?_eq]) rfl rfl

theorem yields_attachProgram (ho : m.Holds o) (p : Program) (point : AttachPoint) (describe : String → Error) :
    (call (·.attach p point) describe).Yields m (o.faults.lookup (.attachProgram p.name) = none) []
      [⟨p, point⟩] := by
  refine (yields_call [.attach p point] ?_ ?_).congr (by rw [ho.fault?_eq]) rfl rfl
  · intro hc
    simp [Kernel.attach, Kernel.call_of_none hc, bind, Except.bind, pure, Except.pure, Kernel.grown]
  · intro reason hc
    simp [Kernel.attach, Kernel.call_of_some hc, bind, Except.bind]

theorem yields_addQdisc : addQdisc.Yields m True [] [] := by
  unfold addQdisc
  exact yields_attempt fun _ => ⟨_, rfl⟩

theorem yields_attachObserver (ho : m.Holds o) (p : Program) (point : String → AttachPoint) {interface : String}
    (hi : m.interface = interface) : (attachObserver p point).Yields m (o.Runs p) [] [⟨p, point interface⟩] := by
  subst hi
  unfold attachObserver
  refine yields_run (Yields.congr (yields_cons (yields_checkProgram ho p) fun _ _ =>
    yields_cons (yields_loadProgram ho.after p _) fun _ _ =>
    yields_cons (yields_attachProgram ho.after.after p _ _) fun _ _ =>
    yields_cons yields_log fun _ _ => yields_nil) ?_ rfl rfl)
  simp [Object.Runs]

/-- Everything that the observers need before their reader starts. -/
theorem yields_observers (ho : m.Holds o) :
    (runAll [addQdisc, attachObserver .tcIngress .ingress, attachObserver .tcEgress .egress,
      check fun m => (m.kernel.mapFault Object.events "ringbuf").map mapError]).Yields m o.Observes []
      (Mode.capture.links m.interface) := by
  refine Yields.congr (yields_cons yields_addQdisc fun _ _ =>
    yields_cons (yields_attachObserver ho.after .tcIngress .ingress (Eq.refl m.interface)) fun _ _ =>
    yields_cons (yields_attachObserver ho.after.after .tcEgress .egress (Eq.refl m.interface)) fun _ _ =>
    yields_cons (yields_checkMap ho.after.after.after _ _) fun _ _ => yields_nil) ?_ rfl rfl
  simp [Object.Observes]

theorem yields_openSocket (h : Host) : (openSocket h).Yields m (h.OpensSocket m.interface) [] [] := by
  have fails : ∀ {e}, openSocket h m = (.error e, m) → ¬h.OpensSocket m.interface →
      (openSocket h).Yields m (h.OpensSocket m.interface) [] [] := fun hs hn =>
    Or.inr ⟨hn, _, [], [], [], m.telemetry, by rw [hs, Kernel.grown_nil]; rfl⟩
  cases hopen : h.socketFault? with
  | some reason => exact fails (by simp only [openSocket, hopen]; rfl) fun hs => nomatch hopen.symm.trans hs.1
  | none =>
  cases hindex : h.interfaceIndex m.interface with
  | error reason =>
    refine fails (by simp only [openSocket, hopen, hindex]; rfl) fun ⟨_, hnul, ⟨index, hle, hlookup⟩, _⟩ => ?_
    exact nomatch hindex.symm.trans (Host.interfaceIndex_eq_ok.mpr ⟨hnul, hle, hlookup⟩)
  | ok index =>
  obtain ⟨hnul, hle, hlookup⟩ := Host.interfaceIndex_eq_ok.mp hindex
  cases hbind : h.bindFault? m.interface with
  | some reason =>
    exact fails (by simp only [openSocket, hopen, hindex, hbind]; rfl) fun hs => nomatch hbind.symm.trans hs.2.2.2
  | none =>
    have hs : h.OpensSocket m.interface := ⟨hopen, hnul, ⟨index, hle, hlookup⟩, hbind⟩
    exact (yields_told (by simp only [openSocket, hopen, hindex, hbind]; rfl)).congr (iff_of_true trivial hs) rfl rfl

/-- Everything that the filter needs before its reader starts. -/
theorem yields_filter (h : Host) (ho : m.Holds o) :
    (runAll [openSocket h, check fun m => (m.kernel.programFault .portFilter).map programError,
      call (·.loadProgram .portFilter) fun reason => programError s!"load {Program.portFilter.name}: {reason}",
      call (·.attach .portFilter .socket) fun reason =>
        socketError s!"attach {Program.portFilter.name}: {reason}"]).Yields m
      (h.OpensSocket m.interface ∧ o.Runs .portFilter) [] (Mode.enforce.links m.interface) := by
  refine Yields.congr (yields_cons (yields_openSocket h) fun _ _ =>
    yields_cons (yields_checkProgram ho.after .portFilter) fun _ _ =>
    yields_cons (yields_loadProgram ho.after.after .portFilter _) fun _ _ =>
    yields_cons (yields_attachProgram ho.after.after.after .portFilter .socket _) fun _ _ => yields_nil) ?_ rfl rfl
  simp [Object.Runs]

/-- Steps followed by the start of a reader. -/
theorem runAll_spawn {steps : List SetupStep} (job : Nat → Job) {r : Prop} {ports : List UInt16} {links : List Link}
    (hs : (runAll steps).Yields m r ports links) :
    (r ∧ ∃ events t, runAll (steps ++ [always fun m => m.spawn (job m.kernel.loads)]) m =
      (.ok (), (m.after (m.kernel.grown ports links events) t).spawn (job m.kernel.loads))) ∨
    (¬r ∧ ∃ e ports links events t, runAll (steps ++ [always fun m => m.spawn (job m.kernel.loads)]) m =
      (.error e, m.after (m.kernel.grown ports links events) t)) := by
  rcases hs with ⟨hr, events, t, hs⟩ | ⟨hr, e, ps, ls, events, t, hs⟩
  · exact Or.inl ⟨hr, events, t, runAll_append_ok hs _⟩
  · exact Or.inr ⟨hr, e, ps, ls, events, t, runAll_append_error hs _⟩

/-- Linking the programs of the engine's mode ends with the start of the mode's reader. -/
theorem attachMode_cases (h : Host) (ho : m.Holds o) {job : Job} (hj : m.engine.mode.reader m.kernel.loads = job) :
    (m.Links h o ∧ ∃ events t, attachMode h m =
      (.ok (), (m.after (m.kernel.grown [] (m.engine.mode.links m.interface) events) t).spawn job)) ∨
    (¬m.Links h o ∧ ∃ e ports links events t, attachMode h m =
      (.error e, m.after (m.kernel.grown ports links events) t)) := by
  subst hj
  unfold Links attachMode
  cases m.engine.mode with
  | capture => exact runAll_spawn .readRing (yields_observers ho)
  | enforce => exact runAll_spawn .readSocket (yields_filter h ho)

theorem startPoller_cases (ho : m.Holds o) :
    (o.Counts ∧ startPoller m = (.ok (), m.spawn (.pollCounters (max m.engine.settings.base.statsInterval 1)))) ∨
    (¬o.Counts ∧ ∃ e, startPoller m = (.error e, m)) := by
  unfold Object.Counts startPoller
  rw [← ho.mapFault_eq]
  cases hf : m.kernel.mapFault Object.statistics "percpu_array" with
  | none => exact Or.inl ⟨rfl, by simp [runAll, check, always, hf]⟩
  | some reason => exact Or.inr ⟨nofun, mapError reason, by simp [runAll, check, hf]⟩

/-- The kernel as it is when the object is loaded. -/
abbrev loadedKernel (m : Machine) (h : Host) (o : Object) (watchSize ringSize : Nat) : Kernel :=
  m.kernel.load m.engine.settings.base.programPath o h.processors watchSize ringSize

theorem loads_loadedKernel (m : Machine) (h : Host) (o : Object) (watchSize ringSize : Nat) :
    (m.loadedKernel h o watchSize ringSize).loads = m.kernel.loads + 1 :=
  Kernel.loads_load _ _ _ _ _ _

theorem outlet_loadedKernel (m : Machine) (h : Host) (o : Object) (watchSize ringSize : Nat) :
    ∀ load ≤ m.kernel.loads, (m.loadedKernel h o watchSize ringSize).outlet load = m.kernel.outlet load :=
  fun _ hload => Kernel.outlet_load hload _ _ _ _ _

/-- The reader that the next start begins, if it comes so far. -/
def nextReader (m : Machine) : Job := m.engine.mode.reader (m.kernel.loads + 1)

theorem loadObject_cases (h : Host) (m : Machine) :
    (∃ o w r, m.Loads h o w r ∧ ∃ t, loadObject h m = (.ok (), m.after (m.loadedKernel h o w r) t)) ∨
    ((∀ o w r, ¬m.Loads h o w r) ∧ ∃ e, loadObject h m = (.error e, m)) := by
  unfold loadObject
  cases hw : m.engine.settings.watchMapSize with
  | error e =>
    refine Or.inr ⟨fun o w r hl => ?_, e, by simp only [hw]⟩
    rw [hl.watchSize] at hw
    cases hw
  | ok w =>
    cases hr : m.engine.settings.ringSize h.pageSize with
    | error e =>
      refine Or.inr ⟨fun o w r hl => ?_, e, by simp only [hw, hr]⟩
      rw [hl.ringSize] at hr
      cases hr
    | ok r =>
      cases ho : h.object? m.engine.settings.base.programPath with
      | none =>
        refine Or.inr ⟨fun o w r hl => ?_, ?_⟩
        · rw [hl.object] at ho
          cases ho
        · simp only [hw, hr, ho]
          exact ⟨_, rfl⟩
      | some o =>
        refine Or.inl ⟨o, w, r, ⟨hw, hr, ho⟩, ?_⟩
        simp only [hw, hr, ho]
        exact ⟨_, rfl⟩

/-! ### How a start ends -/

/-- The four ways in which setting up ends: nothing is loaded, something is missing before the reader starts,
    only the counters are missing, or nothing is. -/
inductive Ending (m : Machine) (h : Host) : Except Error Unit × Machine → Prop
  | unloaded (e : Error) (hl : ∀ o w r, ¬m.Loads h o w r) : Ending m h (.error e, m)
  | unlinked {o : Object} {w r : Nat} (hl : m.Loads h o w r) (ha : ¬m.Attaches h o) (e : Error)
      (ports : List UInt16) (links : List Link) (events : List KernelEvent) (t : Telemetry) :
      Ending m h (.error e, m.after ((m.loadedKernel h o w r).grown ports links events) t)
  | uncounted {o : Object} {w r : Nat} (hl : m.Loads h o w r) (ha : m.Attaches h o) (hc : ¬o.Counts) (e : Error)
      (events : List KernelEvent) (t : Telemetry) :
      Ending m h (.error e,
        (m.after ((m.loadedKernel h o w r).grown m.engine.watch.ports (m.engine.mode.links m.interface) events)
          t).spawn m.nextReader)
  | complete {o : Object} {w r : Nat} (hl : m.Loads h o w r) (ha : m.Attaches h o) (hc : o.Counts)
      (events : List KernelEvent) (t : Telemetry) :
      Ending m h (.ok (),
        ((m.after ((m.loadedKernel h o w r).grown m.engine.watch.ports (m.engine.mode.links m.interface) events)
          t).spawn m.nextReader).spawn (.pollCounters (max m.engine.settings.base.statsInterval 1)))

theorem setUp_ending (h : Host) (m : Machine) : m.Ending h (setUp h m) := by
  unfold setUp
  rcases loadObject_cases h m with ⟨o, w, r, hl, t₁, hload⟩ | ⟨hl, e, hload⟩
  case inr =>
    rw [runAll_cons_error hload]
    exact .unloaded e hl
  -- From here on each part either ends the start or leaves a kernel that has only grown to the next.
  rw [runAll_cons_ok hload]
  show m.Ending h (runAll ([initLogger, syncPorts] ++ _) _)
  rcases yields_tables (m := m.after (m.loadedKernel h o w r) t₁) ⟨rfl, rfl⟩ (Eq.refl m.engine.watch.ports) with
    ⟨hw, ev₂, t₂, hsync⟩ | ⟨hw, e, ps, ls, ev, t, hsync⟩
  case inr =>
    rw [runAll_append_error hsync]
    exact .unlinked hl (fun ha => hw ha.1) e ps ls ev t
  rw [runAll_append_ok hsync]
  rcases attachMode_cases (m := m.after ((m.loadedKernel h o w r).grown m.engine.watch.ports [] ev₂) t₂) (o := o) h
    ⟨rfl, rfl⟩ (congrArg m.engine.mode.reader (m.loads_loadedKernel h o w r)) with
    ⟨hlinks, ev₃, t₃, hattach⟩ | ⟨hlinks, e, ps, ls, ev, t, hattach⟩
  case inr =>
    rw [runAll_cons_error (by exact hattach), after_after, after_kernel, Kernel.grown_grown]
    exact .unlinked hl (fun ha => hlinks ha.2) e _ _ _ t
  rw [runAll_cons_ok (by exact hattach), after_after, after_kernel, Kernel.grown_grown, List.append_nil,
    List.nil_append]
  rcases startPoller_cases (m := spawn m.nextReader (m.after ((m.loadedKernel h o w r).grown
    m.engine.watch.ports (m.engine.mode.links m.interface) (ev₂ ++ ev₃)) t₃)) (o := o) ⟨rfl, rfl⟩ with
    ⟨hc, hpoll⟩ | ⟨hc, e, hpoll⟩
  case inr =>
    rw [runAll_cons_error (by exact hpoll)]
    exact .uncounted hl ⟨hw, hlinks⟩ hc e _ t₃
  rw [runAll_cons_ok (by exact hpoll)]
  exact .complete hl ⟨hw, hlinks⟩ hc (ev₂ ++ ev₃) _

/-- The machine as a start leaves it that succeeds: the engine runs with a reader and a poller. -/
def launched (m : Machine) (k : Kernel) (t : Telemetry) : Machine :=
  let m := ((m.after k t).spawn m.nextReader).spawn
    (.pollCounters (max m.engine.settings.base.statsInterval 1))
  m.setEngine { m.engine with running := true, polled := some .zero }

/-- The tasks that a start which succeeds adds. -/
def startTasks (m : Machine) : List Task :=
  [⟨m.nextReader, .fresh, true⟩, ⟨.pollCounters (max m.engine.settings.base.statsInterval 1), .fresh, true⟩]

theorem launched_tasks (m : Machine) (k : Kernel) (t : Telemetry) :
    (m.launched k t).engine.tasks = m.engine.tasks ++ m.startTasks :=
  List.append_assoc _ _ _

theorem owned_of_mem_startTasks {m : Machine} {t : Task} (ht : t ∈ m.startTasks) : t.owned = true := by
  simp only [startTasks, List.mem_cons, List.not_mem_nil, or_false] at ht
  rcases ht with rfl | rfl <;> rfl

theorem start_eq {m : Machine} (hrunning : m.engine.running = false) (h : Host) : ∃ t, m.start h =
    match setUp h (m.after m.kernel t) with
    | (.error e, m) => (.error e, m.giveUp)
    | (.ok (), m) => (.ok (), m.setEngine { m.engine with running := true, polled := some .zero }) := by
  unfold start
  rw [if_neg (by simp [hrunning]), log_eq]
  exact ⟨_, rfl⟩

/-- A start succeeds only in an engine that does not run, and only with everything that it needs. -/
theorem start_ok {m m₁ : Machine} {h : Host} (hs : m.start h = (.ok (), m₁)) :
    m.engine.running = false ∧ ∃ o w r, m.Loads h o w r ∧ m.Attaches h o ∧ o.Counts ∧ ∃ events t,
      m₁ = m.launched ((m.loadedKernel h o w r).grown m.engine.watch.ports (m.engine.mode.links m.interface) events)
        t := by
  have hrunning : m.engine.running = false := by
    unfold start at hs
    split at hs
    · cases hs
    · simpa using (by assumption : ¬m.engine.running = true)
  refine ⟨hrunning, ?_⟩
  obtain ⟨t₀, hstart⟩ := start_eq hrunning h
  have hend := setUp_ending h (m.after m.kernel t₀)
  rw [hstart] at hs
  rcases hsetUp : setUp h (m.after m.kernel t₀) with ⟨e | _, m₂⟩
  · rw [hsetUp] at hs
    cases hs
  · rw [hsetUp] at hs hend
    cases hs
    cases hend with
    | complete hl ha hc events t =>
      exact ⟨_, _, _, ⟨hl.watchSize, hl.ringSize, hl.object⟩, ha, hc, events, t, rfl⟩

/-- The three ways in which a start fails; in each the machine is given up. -/
inductive Failing (m : Machine) (h : Host) : Machine → Prop
  | unloaded (hl : ∀ o w r, ¬m.Loads h o w r) (t : Telemetry) : Failing m h (m.after m.kernel t).giveUp
  | unlinked {o : Object} {w r : Nat} (hl : m.Loads h o w r) (ha : ¬m.Attaches h o) (ports : List UInt16)
      (links : List Link) (events : List KernelEvent) (t : Telemetry) :
      Failing m h (m.after ((m.loadedKernel h o w r).grown ports links events) t).giveUp
  | uncounted {o : Object} {w r : Nat} (hl : m.Loads h o w r) (ha : m.Attaches h o) (hc : ¬o.Counts)
      (events : List KernelEvent) (t : Telemetry) :
      Failing m h ((m.after ((m.loadedKernel h o w r).grown m.engine.watch.ports (m.engine.mode.links m.interface)
        events) t).spawn m.nextReader).giveUp

theorem start_error {m m₁ : Machine} {h : Host} {e : Error} (hrunning : m.engine.running = false)
    (hs : m.start h = (.error e, m₁)) : m.Failing h m₁ := by
  obtain ⟨t₀, hstart⟩ := start_eq hrunning h
  have hend := setUp_ending h (m.after m.kernel t₀)
  rw [hstart] at hs
  rcases hsetUp : setUp h (m.after m.kernel t₀) with ⟨e' | _, m₂⟩
  · rw [hsetUp] at hs hend
    cases hs
    cases hend with
    | unloaded _ hl => exact .unloaded (m := m) (fun o w r h => hl o w r ⟨h.watchSize, h.ringSize, h.object⟩) t₀
    | unlinked hl ha _ ports links events t =>
      exact .unlinked (m := m) ⟨hl.watchSize, hl.ringSize, hl.object⟩ ha ports links events t
    | uncounted hl ha hc _ events t =>
      exact .uncounted (m := m) ⟨hl.watchSize, hl.ringSize, hl.object⟩ ha hc events t
  · rw [hsetUp] at hs
    cases hs

end Machine

/-! ### A start that succeeds -/

theorem WatchList.ofPorts_standard : ofPorts [8000] = .ok standard := by
  simp [ofPorts, ascending, squeeze, standard]

/-- A host of four processors with a loopback interface, on which every path names the same object. -/
def Host.holding (o : Object) : Host := ⟨4, 4096, [("lo", 1)], none, fun _ => none, fun _ => some o⟩

namespace Engine

/-- The standard settings, in a mode and at the loopback interface. -/
def standardSettings (mode : Mode) : EngineSettings := ⟨{ mode := mode.text, interface := "lo" }, {}, {}, []⟩

/-- The engine of the standard settings. -/
def standard (mode : Mode) : Engine :=
  { settings := standardSettings mode, mode, watch := .standard, sink := .silent, session := .create 262144,
    running := false, tasks := [], polled := none }

theorem build_standard (mode : Mode) : build (some (standardSettings mode)) none .silent = .ok (standard mode) := by
  have hmode : (standardSettings mode).mode = .ok mode := by cases mode <;> rfl
  have hwatch : (standardSettings mode).watchList = .ok .standard := by
    unfold EngineSettings.watchList
    rw [show (standardSettings mode).ports = [8000] from rfl, WatchList.ofPorts_standard]
    rfl
  unfold build
  simp only [hmode, hwatch]
  rfl

end Engine

/-- With a complete object the standard engine starts in either mode. -/
theorem Machine.start_standard (mode : Mode) :
    ((Machine.create (.standard mode)).start (.holding .standard)).1 = .ok () := by
  cases mode <;> rfl

theorem Machine.start_standard_eq (mode : Mode) : (Machine.create (.standard mode)).start (.holding .standard) =
    (.ok (), ((Machine.create (.standard mode)).start (.holding .standard)).2) :=
  Prod.ext (start_standard mode) rfl

end FrameSentry
