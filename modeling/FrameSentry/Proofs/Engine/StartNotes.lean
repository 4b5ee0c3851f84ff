import FrameSentry.Proofs.Engine.Setup

/-! What a start leaves behind in the records. Every step of it notes the calls to the kernel that succeeded, and each
    step only calls of its kind: the object is loaded and its log set up, ports are inserted, or programs are linked.
    What a step tells is a log entry of the loader, never a metric; and when it fails, it fails to attach. -/

namespace FrameSentry

/-- What a call to the kernel is about: the object as a whole, a watched port, or a program that is linked. -/
inductive KernelEvent.Kind where
  | object
  | port
  | link
deriving DecidableEq, Repr

def KernelEvent.kind : KernelEvent → KernelEvent.Kind
  | .loadObject _ _ _ | .initLogger | .unloadObject => .object
  | .insertPort _ _ _ => .port
  | .addQdisc _ | .loadProgram _ | .attach _ _ => .link

theorem Kernel.call_ok {k k' : Kernel} {c : KernelCall} {e : KernelEvent} (h : k.call c e = .ok k') :
    k' = k.note e := by
  unfold call at h
  split at h <;> cases h
  rfl

theorem Kernel.insertPort_ok {k k' : Kernel} {port : UInt16} (h : k.insertPort port = .ok k') :
    k'.trace = k.trace ++ [.insertPort port 1 0] := by
  simp only [insertPort, bind, Except.bind] at h
  split at h <;> cases h
  rename_i hcall
  rw [call_ok hcall]
  rfl

theorem Kernel.attach_ok {k k' : Kernel} {p : Program} {point : AttachPoint} (h : k.attach p point = .ok k') :
    k'.trace = k.trace ++ [.attach p point] := by
  simp only [Kernel.attach, bind, Except.bind] at h
  split at h <;> cases h
  rename_i hcall
  rw [call_ok hcall]
  rfl

/-- One machine's records continue another's: the trace with calls of some kinds, the log with entries of the
    loader. -/
def Machine.Continues (p : KernelEvent → Prop) (m m' : Machine) : Prop :=
  ∃ events entries, m'.kernel.trace = m.kernel.trace ++ events ∧ (∀ e ∈ events, p e) ∧
    m'.telemetry = ⟨m.telemetry.logs ++ entries, m.telemetry.metrics⟩ ∧ ∀ x ∈ entries, x.component = .loader

namespace Machine.Continues
variable {p : KernelEvent → Prop} {m m' m'' : Machine}

/-- The kernel's trace goes on, and nothing is told. -/
theorem of_trace {events : List KernelEvent} (htrace : m'.kernel.trace = m.kernel.trace ++ events)
    (hevents : ∀ e ∈ events, p e) (htold : m'.telemetry = m.telemetry) : m.Continues p m' :=
  ⟨events, [], htrace, hevents, by simp [htold], nofun⟩

theorem refl (m : Machine) : m.Continues p m := of_trace (List.append_nil _).symm nofun rfl

theorem log (m : Machine) (level : Level) (message : String) (fields : List (String × FieldValue)) :
    m.Continues p (m.log .loader level message fields) :=
  ⟨[], [⟨.loader, level, message, fields⟩], (List.append_nil _).symm, nofun, rfl, by simp⟩

theorem trans (h₁ : m.Continues p m') (h₂ : m'.Continues p m'') : m.Continues p m'' := by
  obtain ⟨events₁, entries₁, htrace₁, hevents₁, htold₁, hentries₁⟩ := h₁
  obtain ⟨events₂, entries₂, htrace₂, hevents₂, htold₂, hentries₂⟩ := h₂
  refine ⟨events₁ ++ events₂, entries₁ ++ entries₂, by simp [htrace₂, htrace₁], ?_, by simp [htold₂, htold₁], ?_⟩
  · intro e he
    exact (List.mem_append.mp he).elim (hevents₁ e) (hevents₂ e)
  · intro x hx
    exact (List.mem_append.mp hx).elim (hentries₁ x) (hentries₂ x)

theorem mono {q : KernelEvent → Prop} (hpq : ∀ e, p e → q e) (h : m.Continues p m') : m.Continues q m' := by
  obtain ⟨events, entries, htrace, hevents, htold, hentries⟩ := h
  exact ⟨events, entries, htrace, fun e he => hpq e (hevents e he), htold, hentries⟩

end Machine.Continues

/-- What a step comes to that continues the records with calls of some kinds, and fails only to attach. -/
structure Machine.Noted (p : KernelEvent → Prop) (m : Machine) (result : Except Error Unit × Machine) : Prop where
  continues : m.Continues p result.2
  fails : ∀ e, result.1 = .error e → ∃ cause, e = .attach cause

theorem Machine.Noted.mono {p q : KernelEvent → Prop} {m : Machine} {result : Except Error Unit × Machine}
    (h : m.Noted p result) (hpq : ∀ e, p e → q e) : m.Noted q result :=
  ⟨h.continues.mono hpq, h.fails⟩

/-! ### Single steps -/

namespace SetupStep

/-- Whatever the machine, a step continues its records with calls of some kinds. -/
def Notes (p : KernelEvent → Prop) (s : SetupStep) : Prop := ∀ m : Machine, m.Noted p (s m)

variable {p : KernelEvent → Prop} {m : Machine}

theorem noted_always {f : Machine → Machine} (hf : m.Continues p (f m)) : m.Noted p (always f m) :=
  ⟨hf, fun e he => by cases he⟩

theorem notes_log {level : Level} {message : String} {fields : Machine → List (String × FieldValue)} :
    (always fun m => m.log .loader level message (fields m)).Notes p :=
  fun m => noted_always (.log m level message (fields m))

theorem noted_check {fault : Machine → Option Error} (hfault : ∀ e, fault m = some e → ∃ cause, e = .attach cause) :
    m.Noted p (check fault m) := by
  unfold check
  split
  · rename_i e he
    exact ⟨.refl m, fun e' he' => by cases he'; exact hfault e he⟩
  · exact ⟨.refl m, fun e he => by cases he⟩

theorem noted_call {f : Kernel → Except String Kernel} {describe : String → Error}
    (hf : ∀ k, f m.kernel = .ok k → ∃ e, k.trace = m.kernel.trace ++ [e] ∧ p e)
    (hdescribe : ∀ reason, ∃ cause, describe reason = .attach cause) : m.Noted p (call f describe m) := by
  unfold call
  split
  · exact ⟨.refl m, fun e he => by cases he; exact hdescribe _⟩
  · obtain ⟨event, htrace, hp⟩ := hf _ (by assumption)
    exact ⟨.of_trace htrace (by simpa using hp) rfl, fun e he => by cases he⟩

theorem noted_attempt {c : KernelCall} {event : KernelEvent} {tell : String → Machine → Machine} (hevent : p event)
    (htell : ∀ reason, m.Continues p (tell reason m)) : m.Noted p (attempt (fun k => k.call c event) tell m) := by
  unfold attempt
  split
  · exact ⟨htell _, fun e he => by cases he⟩
  · rename_i hcall
    rw [Kernel.call_ok hcall]
    exact ⟨.of_trace rfl (by simpa using hevent) rfl, fun e he => by cases he⟩

/-- Steps one after the other continue the records as each of them does. -/
theorem notes_runAll {steps : List SetupStep} (hsteps : ∀ s ∈ steps, s.Notes p) : (runAll steps).Notes p := by
  induction steps with
  | nil => exact fun m => ⟨.refl m, fun e he => by cases he⟩
  | cons s rest ih =>
    intro m
    have hfirst := hsteps s List.mem_cons_self m
    rcases hs : s m with ⟨e | _, m'⟩
    · rw [runAll_cons_error hs, ← hs]
      exact hfirst
    · have hrest := ih (fun t ht => hsteps t (List.mem_cons_of_mem _ ht)) m'
      rw [hs] at hfirst
      rw [runAll_cons_ok hs]
      exact ⟨hfirst.continues.trans hrest.continues, hrest.fails⟩

end SetupStep

/-! ### The steps of a start -/

namespace Machine
open SetupStep
variable {p : KernelEvent → Prop}

theorem notes_loadObject (h : Host) : (loadObject h).Notes (·.kind = .object) := by
  intro m
  unfold loadObject
  simp only
  split
  · rename_i hsize
    unfold EngineSettings.watchMapSize at hsize
    split at hsize <;> cases hsize
    exact ⟨.refl m, fun e he => by cases he; exact ⟨_, rfl⟩⟩
  · rename_i hsize
    unfold EngineSettings.ringSize at hsize
    simp only at hsize
    split at hsize <;> cases hsize
    exact ⟨.refl m, fun e he => by cases he; exact ⟨_, rfl⟩⟩
  · exact ⟨.refl m, fun e he => by cases he; exact ⟨_, rfl⟩⟩
  · rename_i watchSize ringSize o _ _ _
    have hload : m.Continues (·.kind = .object) { m with
        kernel := m.kernel.load m.engine.settings.base.programPath o h.processors watchSize ringSize } :=
      .of_trace rfl (by simp [KernelEvent.kind]) rfl
    exact ⟨hload.trans (.log _ _ _ _), fun e he => by cases he⟩

theorem notes_initLogger : initLogger.Notes (·.kind = .object) :=
  fun m => noted_attempt rfl fun _ => .log m _ _ _

theorem notes_checkMap (name type : String) :
    (check fun m => (m.kernel.mapFault name type).map mapError).Notes p := by
  refine fun m => noted_check fun e he => ?_
  obtain ⟨reason, -, rfl⟩ := Option.map_eq_some_iff.mp he
  exact ⟨_, rfl⟩

theorem notes_checkProgram (program : Program) :
    (check fun m => (m.kernel.programFault program).map programError).Notes p := by
  refine fun m => noted_check fun e he => ?_
  obtain ⟨reason, -, rfl⟩ := Option.map_eq_some_iff.mp he
  exact ⟨_, rfl⟩

theorem notes_syncPort (port : UInt16) : (syncPort port).Notes (·.kind = .port) :=
  fun _ => noted_call (fun _ hk => ⟨_, Kernel.insertPort_ok hk, rfl⟩) fun _ => ⟨_, rfl⟩

theorem notes_syncPorts : syncPorts.Notes (·.kind = .port) := by
  intro m
  refine notes_runAll (fun s hs => ?_) m
  simp only [List.mem_cons, List.not_mem_nil, or_false] at hs
  rcases hs with rfl | rfl | rfl
  · exact notes_checkMap _ _
  · refine notes_runAll fun s hs => ?_
    obtain ⟨port, -, rfl⟩ := List.mem_map.mp hs
    exact notes_syncPort port
  · exact notes_log

theorem notes_loadProgram (program : Program) (describe : String → String) :
    (call (·.loadProgram program) fun reason => programError (describe reason)).Notes (·.kind = .link) := by
  refine fun m => noted_call (fun k hk => ⟨.loadProgram program, ?_, rfl⟩) fun _ => ⟨_, rfl⟩
  rw [Kernel.call_ok hk]
  rfl

theorem notes_attachObserver (program : Program) (point : String → AttachPoint) :
    (attachObserver program point).Notes (·.kind = .link) := by
  intro m
  refine notes_runAll (fun s hs => ?_) m
  simp only [List.mem_cons, List.not_mem_nil, or_false] at hs
  rcases hs with rfl | rfl | rfl | rfl
  · exact notes_checkProgram program
  · exact notes_loadProgram program _
  · exact fun _ => noted_call (fun _ hk => ⟨_, Kernel.attach_ok hk, rfl⟩) fun _ => ⟨_, rfl⟩
  · exact notes_log

theorem continues_spawn (m : Machine) (job : Job) : m.Continues p (m.spawn job) :=
  .of_trace (List.append_nil _).symm nofun rfl

theorem notes_attachObservers : attachObservers.Notes (·.kind = .link) := by
  refine notes_runAll fun s hs => ?_
  simp only [List.mem_cons, List.not_mem_nil, or_false] at hs
  rcases hs with rfl | rfl | rfl | rfl | rfl
  · exact fun m => noted_attempt rfl fun _ => .log m _ _ _
  · exact notes_attachObserver _ _
  · exact notes_attachObserver _ _
  · exact notes_checkMap _ _
  · exact fun m => noted_always (continues_spawn m _)

theorem notes_openSocket (h : Host) : (openSocket h).Notes p := by
  intro m
  have hrefused : ∀ reason, m.Noted p (.error (socketError reason), m) :=
    fun reason => ⟨.refl m, fun e he => by cases he; exact ⟨_, rfl⟩⟩
  unfold openSocket
  simp only
  split
  · exact hrefused _
  · exact hrefused _
  · exact hrefused _
  · exact ⟨.log m _ _ _, fun e he => by cases he⟩

theorem notes_attachFilter (h : Host) : (attachFilter h).Notes (·.kind = .link) := by
  refine notes_runAll fun s hs => ?_
  simp only [List.mem_cons, List.not_mem_nil, or_false] at hs
  rcases hs with rfl | rfl | rfl | rfl | rfl
  · exact notes_openSocket h
  · exact notes_checkProgram _
  · exact notes_loadProgram _ _
  · exact fun _ => noted_call (fun _ hk => ⟨_, Kernel.attach_ok hk, rfl⟩) fun _ => ⟨_, rfl⟩
  · exact fun m => noted_always (continues_spawn m _)

theorem notes_attachMode (h : Host) : (attachMode h).Notes (·.kind = .link) := by
  intro m
  unfold attachMode
  split
  · exact notes_attachObservers m
  · exact notes_attachFilter h m

theorem notes_startPoller : startPoller.Notes p := by
  refine notes_runAll fun s hs => ?_
  simp only [List.mem_cons, List.not_mem_nil, or_false] at hs
  rcases hs with rfl | rfl
  · exact notes_checkMap _ _
  · exact fun m => noted_always (continues_spawn m _)

/-- Everything that a start does after its first log entry. -/
theorem notes_setUp (h : Host) : (setUp h).Notes fun _ => True := by
  refine notes_runAll fun s hs => ?_
  simp only [List.mem_cons, List.not_mem_nil, or_false] at hs
  rcases hs with rfl | rfl | rfl | rfl | rfl | rfl
  · exact fun m => (notes_loadObject h m).mono fun _ _ => trivial
  · exact fun m => (notes_initLogger m).mono fun _ _ => trivial
  · exact fun m => (notes_syncPorts m).mono fun _ _ => trivial
  · exact fun m => (notes_attachMode h m).mono fun _ _ => trivial
  · exact notes_startPoller
  · exact notes_log

/-- Whatever becomes of a start, it tells log entries of the engine and of the loader, and no metric. -/
theorem start_told (h : Host) (m : Machine) : ∃ entries,
    (m.start h).2.telemetry = ⟨m.telemetry.logs ++ entries, m.telemetry.metrics⟩ ∧
      ∀ x ∈ entries, x.component = .engine ∨ x.component = .loader := by
  unfold start
  split
  · exact ⟨[], by simp, nofun⟩
  simp only
  generalize hm₀ : m.log _ _ _ _ = m₀
  obtain ⟨-, entries, -, -, htold, hentries⟩ := (notes_setUp h m₀).continues
  have hfirst : ∃ x : LogEntry, x.component = .engine ∧ m₀.telemetry.logs = m.telemetry.logs ++ [x] ∧
      m₀.telemetry.metrics = m.telemetry.metrics := by
    rw [← hm₀]
    exact ⟨_, rfl, rfl, rfl⟩
  obtain ⟨x, hx, hlogs, hmetrics⟩ := hfirst
  refine ⟨x :: entries, ?_, ?_⟩
  · rw [hlogs, hmetrics, List.append_assoc] at htold
    rcases hsetUp : setUp h m₀ with ⟨e | _, m₁⟩ <;> rw [hsetUp] at htold <;> exact htold
  · intro y hy
    rcases List.mem_cons.mp hy with rfl | hy
    · exact Or.inl hx
    · exact Or.inr (hentries y hy)

end Machine
end FrameSentry
