import FrameSentry.Daemon.Instance
import FrameSentry.Proofs.Daemon.PidFile

/-! The stages of one instance. It stays the same process with the same path for its file. From the moment when it has
    written the file no step touches the files but the removal, which every way through the stages comes to, whatever
    fails before; and only then the run ends. -/

namespace FrameSentry

/-! ### The configuration stays -/

namespace Orchestrator

theorem setTelemetry_config (o : Orchestrator) (t : Telemetry) : (o.setTelemetry t).config = o.config := by
  unfold setTelemetry
  split <;> rfl

theorem setTelemetry_telemetry (o : Orchestrator) : o.setTelemetry o.telemetry = o := by
  obtain ⟨config, machine, told, consumer⟩ := o
  cases machine <;> rfl

theorem log_config (o : Orchestrator) (level : Level) (message : String) (fields : List (String × FieldValue)) :
    (o.log level message fields).config = o.config := setTelemetry_config o _

theorem start_config (h : Host) (o : Orchestrator) : (o.start h).2.config = o.config := by
  unfold start
  split
  · rfl
  · split <;> rfl

theorem settle_config (o : Orchestrator) : o.settle.config = o.config := by
  unfold settle
  split <;> rfl

theorem shutDown_config (picks : List Bool) (o : Orchestrator) : (o.shutDown picks).2.config = o.config := by
  unfold shutDown
  split
  · rfl
  · simp only
    split
    · exact log_config _ _ _ _
    · rfl

end Orchestrator

/-! ### Stages -/

/-- The instance has written its file and not removed it yet. -/
def Stage.held : Stage → Bool
  | .starting | .serving | .stopping _ | .removing _ => true
  | .writing | .ended _ => false

/-- How many more steps a run that holds its file takes at most. -/
def Stage.left : Stage → Nat
  | .writing => 5
  | .starting => 4
  | .serving => 3
  | .stopping _ => 2
  | .removing _ => 1
  | .ended _ => 0

namespace Instance
variable {i : Instance} {fs : Files} {path : String}

/-- Which process it is, and where its file is. -/
def Same (i i' : Instance) : Prop := i'.pid = i.pid ∧ i'.pidPath = i.pidPath

theorem same_of_config {i' : Instance} (hpid : i'.pid = i.pid)
    (hconfig : i'.orchestrator.config = i.orchestrator.config) : i.Same i' := by
  refine ⟨hpid, ?_⟩
  unfold pidPath
  rw [hconfig]

theorem writePid_same (i : Instance) (fs : Files) : i.Same (i.writePid fs).1 := by
  unfold writePid
  split
  · exact ⟨rfl, rfl⟩
  · exact same_of_config rfl (Orchestrator.setTelemetry_config _ _)

/-- Where the file is not there an instance writes it and goes on. -/
theorem writePid_of_vacant (i : Instance) (hpath : i.pidPath = some path) {p : Place}
    (hvacant : PidFile.Vacant fs path p) (hpermits : fs.Permits) : (i.writePid fs).1.stage = .starting := by
  obtain ⟨fs', hmake, -⟩ := hvacant.make hpermits i.pid
  simp only [writePid, hpath, PidFile.write, hmake]

theorem removePid_same (failure : Option DaemonError) (i : Instance) (fs : Files) : i.Same (i.removePid failure fs).1 := by
  unfold removePid
  split
  · exact ⟨rfl, rfl⟩
  · exact same_of_config rfl (Orchestrator.setTelemetry_config _ _)

theorem step_same (s : Surroundings) (i : Instance) (fs : Files) : i.Same (i.step s fs).1 := by
  unfold step
  split
  · exact i.writePid_same fs
  · have hstart := i.orchestrator.start_config s.host
    unfold start
    split <;> rename_i heq <;> rw [heq] at hstart
    · exact same_of_config rfl hstart
    · exact same_of_config rfl ((Orchestrator.log_config _ _ _ _).trans hstart)
  · unfold serve
    simp only
    split <;> exact same_of_config rfl ((Orchestrator.log_config _ _ _ _).trans (Orchestrator.settle_config _))
  · exact same_of_config rfl (Orchestrator.shutDown_config _ _)
  · exact removePid_same _ i fs
  · exact ⟨rfl, rfl⟩

theorem writePid_begun (i : Instance) (fs : Files) : (i.writePid fs).1.stage ≠ .writing := by
  unfold writePid
  split
  · nofun
  · simp only
    split <;> nofun

/-- No step leads back to the write. -/
theorem step_begun (s : Surroundings) (i : Instance) (fs : Files) : (i.step s fs).1.stage ≠ .writing := by
  cases hstage : i.stage with
  | writing =>
    simp only [step, hstage]
    exact i.writePid_begun fs
  | starting =>
    simp only [step, hstage, start]
    split <;> nofun
  | serving =>
    simp only [step, hstage, serve]
    split <;> nofun
  | stopping failure => simp [step, hstage, stop]
  | removing failure =>
    simp only [step, hstage, removePid]
    split <;> nofun
  | ended failure => simp [step, hstage]

theorem step_of_ended (s : Surroundings) (hbegun : i.stage ≠ .writing) (hheld : i.stage.held = false) (fs : Files) :
    i.step s fs = (i, fs) := by
  cases hstage : i.stage <;> simp_all [Stage.held, step]

/-- From the writing of the file to its removal a step leaves the files alone and the run goes on to a later stage,
    whether the step fails or not. -/
theorem step_of_held (s : Surroundings) (hheld : i.stage.held = true) (fs : Files) :
    ((i.step s fs).2 = fs ∧ (i.step s fs).1.stage.held = true ∧ (i.step s fs).1.stage.left < i.stage.left) ∨
      ∃ failure, i.stage = .removing failure ∧ i.step s fs = i.removePid failure fs := by
  cases hstage : i.stage with
  | writing => rw [hstage] at hheld; cases hheld
  | ended failure => rw [hstage] at hheld; cases hheld
  | starting =>
    left
    simp only [step, hstage, start]
    split <;> simp [Stage.held, Stage.left]
  | serving =>
    left
    simp only [step, hstage, serve]
    split <;> simp [Stage.held, Stage.left]
  | stopping failure =>
    left
    simp [step, hstage, stop, Stage.held, Stage.left]
  | removing failure =>
    right
    exact ⟨failure, rfl, by simp only [step, hstage]⟩

end Instance

end FrameSentry
