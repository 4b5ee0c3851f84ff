import FrameSentry.Proofs.Daemon.Stages

/-! At most one of several instances owns the file for the process id. Each instance writes the file in parts, one
    operation on the files after the other, and the parts of several instances come in any order among each other. Who has
    created the file owns it until it has removed it, and nobody creates it meanwhile; so the owner finds it as it left
    it. However the owner's run ends, it removes the file first, and then another instance can write its own. -/

namespace FrameSentry

/-! ### The parts of a write -/

/-- How far a write is: the directories for the file are to be made, or they are there; or the file is created, at some
    place, is found to be a file, and has its permissions. -/
inductive WritePart where
  | arriving
  | made
  | created (place : Place)
  | inspected (place : Place)
  | prepared (place : Place)
deriving DecidableEq, Repr

/-- One of several instances: it writes its file, or goes on after that. -/
inductive Member where
  | writing (part : WritePart) (process : Instance)
  | running (process : Instance)
deriving DecidableEq, Repr

namespace Member

def process : Member → Instance
  | .writing _ i => i
  | .running i => i

/-- The write fails, and with it the run. -/
def fail (i : Instance) (e : DaemonError) : Member := .running { i with stage := .ended (some e) }

/-- The write is done. -/
def succeed (i : Instance) (path : String) : Member :=
  .running { i with
    orchestrator := i.orchestrator.setTelemetry
      (i.orchestrator.telemetry.log .orchestrator .info "PID file written"
        [("pid", .number i.pid), ("path", .text path)])
    stage := .starting }

/-- One part of the write. -/
def write (path : String) (i : Instance) (fs : Files) : WritePart → Member × Files
  | .arriving =>
    match PidFile.makeParents path fs with
    | (.error e, fs) => (fail i (.system e.message), fs)
    | (.ok (), fs) => (.writing .made i, fs)
  | .made =>
    match fs.create path PidFile.newMode with
    | .error .exists => (fail i (.pidFileExists path (PidFile.owner path fs)), fs)
    | .error e => (fail i (.system e.message), fs)
    | .ok (place, fs) => (.writing (.created place) i, fs)
  | .created place =>
    match fs.permit .inspect with
    | .error e => (fail i (.system e.message), fs)
    | .ok () =>
      if (fs.node? place).any (·.isDirectory) then
        (fail i (.pidFileIrregular path), (fs.remove path).toOption.getD fs)
      else (.writing (.inspected place) i, fs)
  | .inspected place =>
    match fs.setMode place PidFile.finalMode with
    | .error e => (fail i (.system e.message), fs)
    | .ok fs => (.writing (.prepared place) i, fs)
  | .prepared place =>
    match fs.append place (PidFile.line i.pid) with
    | (.error e, fs) => (fail i (.system e.message), fs)
    | (.ok (), fs) => (succeed i path, fs)

/-- One step of an instance among others. -/
def step (s : Surroundings) (fs : Files) : Member → Member × Files
  | .writing part i =>
    match i.pidPath with
    | none => (.running (i.writePid fs).1, fs)
    | some path => write path i fs part
  | .running i => (.running (i.step s fs).1, (i.step s fs).2)

/-- So many steps of an instance alone. -/
def steps (s : Surroundings) : Nat → Member × Files → Member × Files
  | 0, x => x
  | n + 1, (m, fs) => steps s n (m.step s fs)

theorem step_writing {i : Instance} {path : String} (hpath : i.pidPath = some path) (s : Surroundings) (fs : Files)
    (part : WritePart) : step s fs (.writing part i) = write path i fs part := by
  simp only [step, hpath]

theorem steps_fail (s : Surroundings) (n : Nat) (i : Instance) (e : DaemonError) (fs : Files) :
    steps s n (fail i e, fs) = (fail i e, fs) := by
  induction n with
  | zero => rfl
  | succ n ih => exact ih

/-- The parts of a write, with nobody else between them, are the write. -/
theorem steps_writing (s : Surroundings) {i : Instance} {path : String} (hpath : i.pidPath = some path) (fs : Files) :
    steps s 5 (.writing .arriving i, fs) = (.running (i.writePid fs).1, (i.writePid fs).2) := by
  have hended : ∀ n e fs, steps s n (fail i e, fs) = (.running { i with
      orchestrator := i.orchestrator.setTelemetry i.orchestrator.telemetry, stage := .ended (some e) }, fs) :=
    fun n e fs => by rw [steps_fail, Orchestrator.setTelemetry_telemetry, fail]
  unfold Instance.writePid PidFile.write PidFile.make
  simp only [hpath]
  rw [steps, step_writing hpath, write]
  rcases PidFile.makeParents path fs with ⟨e | _, fs₁⟩
  · exact hended 4 _ fs₁
  simp only
  rw [steps, step_writing hpath, write]
  rcases fs₁.create path PidFile.newMode with e | ⟨place, fs₂⟩
  · cases e <;> exact hended 3 _ fs₁
  simp only
  rw [steps, step_writing hpath, write, PidFile.fillNew]
  rcases fs₂.permit .inspect with e | _
  · exact hended 2 _ fs₂
  simp only
  split
  · exact hended 2 _ _
  rw [steps, step_writing hpath, write]
  rcases fs₂.setMode place PidFile.finalMode with e | fs₃
  · exact hended 1 _ fs₂
  simp only
  rw [steps, step_writing hpath, write]
  rcases fs₃.append place (PidFile.line i.pid) with ⟨e | _, fs₄⟩ <;> simp only
  · exact hended 0 _ fs₄
  · rfl

/-! ### Owners -/

/-- The instance has created the file and not removed it. -/
def owner : Member → Bool
  | .writing .arriving _ | .writing .made _ => false
  | .writing _ _ => true
  | .running i => i.stage.held

/-- The instance has written the file to its end and not removed it. -/
def written : Member → Bool
  | .writing _ _ => false
  | .running i => i.stage.held

theorem owner_of_written {m : Member} (h : m.written = true) : m.owner = true := by
  cases m with
  | writing part i => cases h
  | running i => exact h

/-- How many more steps an instance takes at most until its run ends. -/
def left : Member → Nat
  | .writing .arriving _ => 9
  | .writing .made _ => 8
  | .writing (.created _) _ => 7
  | .writing (.inspected _) _ => 6
  | .writing (.prepared _) _ => 5
  | .running i => i.stage.left

/-- The instance is in the stage that it is said to be in. -/
def Begun : Member → Prop
  | .writing _ i => i.stage = .writing
  | .running i => i.stage ≠ .writing

/-- The file is as the instance left it, if it owns the file: empty as long as it is written, and then with the process
    id in it. -/
def Finds (fs : Files) (path : String) : Member → Prop
  | .writing .arriving _ | .writing .made _ => True
  | .writing (.created p) _ | .writing (.inspected p) _ | .writing (.prepared p) _ => PidFile.Holds fs path p []
  | .running i => i.stage.held = true → ∃ p, PidFile.Holds fs path p (PidFile.line i.pid)

variable {m : Member} {i : Instance} {fs : Files} {path : String}

theorem finds_of_not_owner (h : m.owner = false) (fs : Files) (path : String) : m.Finds fs path := by
  cases m with
  | running i => exact fun hheld => absurd (hheld.symm.trans h) nofun
  | writing part i =>
    cases part with
    | arriving => trivial
    | made => trivial
    | created p => cases h
    | inspected p => cases h
    | prepared p => cases h

theorem Finds.holds (h : m.Finds fs path) (howner : m.owner = true) : ∃ p content, PidFile.Holds fs path p content := by
  cases m with
  | writing part i =>
    cases part with
    | arriving => cases howner
    | made => cases howner
    | created p => exact ⟨p, [], h⟩
    | inspected p => exact ⟨p, [], h⟩
    | prepared p => exact ⟨p, [], h⟩
  | running i =>
    obtain ⟨p, hp⟩ := h howner
    exact ⟨p, _, hp⟩

theorem step_running (s : Surroundings) (fs : Files) (i : Instance) :
    step s fs (.running i) = (.running (i.step s fs).1, (i.step s fs).2) := rfl

/-- After a part of the write the same process writes on, or it runs. -/
theorem write_after (hi : i.stage = .writing) (path : String) (fs : Files) (part : WritePart) :
    i.Same (write path i fs part).1.process ∧ (write path i fs part).1.Begun := by
  have hfail : ∀ e, i.Same (fail i e).process ∧ (fail i e).Begun := fun e => ⟨⟨rfl, rfl⟩, nofun⟩
  have hgoes : ∀ part, i.Same (writing part i).process ∧ (writing part i).Begun := fun _ => ⟨⟨rfl, rfl⟩, hi⟩
  cases part with
  | arriving =>
    rw [write]
    split
    · exact hfail _
    · exact hgoes _
  | made =>
    rw [write]
    split
    · exact hfail _
    · exact hfail _
    · exact hgoes _
  | created p =>
    rw [write]
    split
    · exact hfail _
    · split
      · exact hfail _
      · exact hgoes _
  | inspected p =>
    rw [write]
    split
    · exact hfail _
    · exact hgoes _
  | prepared p =>
    rw [write]
    split
    · exact hfail _
    · exact ⟨Instance.same_of_config rfl (Orchestrator.setTelemetry_config _ _), nofun⟩

theorem step_after (hm : m.Begun) (s : Surroundings) (fs : Files) :
    m.process.Same (m.step s fs).1.process ∧ (m.step s fs).1.Begun := by
  cases m with
  | running i => exact ⟨i.step_same s fs, i.step_begun s fs⟩
  | writing part i =>
    cases hpath : i.pidPath with
    | none =>
      simp only [step, hpath]
      exact ⟨i.writePid_same fs, i.writePid_begun fs⟩
    | some path =>
      rw [step_writing hpath]
      exact write_after hm path fs part

/-- While the file is there nobody but its owner changes anything, or becomes an owner. -/
theorem step_of_holds (hm : m.owner = false) (hbegun : m.Begun) (hpath : m.process.pidPath = some path) {p : Place}
    {content : Bytes} (h : PidFile.Holds fs path p content) (s : Surroundings) :
    (m.step s fs).2 = fs ∧ (m.step s fs).1.owner = false := by
  cases m with
  | running i =>
    rw [step_running, i.step_of_ended s hbegun hm]
    exact ⟨rfl, hm⟩
  | writing part i =>
    rw [step_writing (i := i) hpath]
    cases part with
    | arriving =>
      rw [write, PidFile.makeParents_of_reaches h.reaches]
      exact ⟨rfl, rfl⟩
    | made =>
      rw [write, h.create]
      exact ⟨rfl, rfl⟩
    | created p => cases hm
    | inspected p => cases hm
    | prepared p => cases hm

/-- Who is no owner takes nothing away that is there, and owns what it creates. -/
theorem step_of_not_owner (hm : m.owner = false) (hbegun : m.Begun) (hpath : m.process.pidPath = some path)
    (s : Surroundings) (fs : Files) : fs.Grows (m.step s fs).2 ∧ (m.step s fs).1.Finds (m.step s fs).2 path := by
  cases m with
  | running i =>
    rw [step_running, i.step_of_ended s hbegun hm]
    exact ⟨.refl fs, finds_of_not_owner hm fs path⟩
  | writing part i =>
    rw [step_writing (i := i) hpath]
    cases part with
    | arriving =>
      have hgrows : fs.Grows (PidFile.makeParents path fs).2 := .makeDirectories fs _ _
      rw [write]
      split <;> rename_i heq <;> rw [heq] at hgrows
      · exact ⟨hgrows, nofun⟩
      · exact ⟨hgrows, trivial⟩
    | made =>
      rw [write]
      split
      · exact ⟨.refl fs, nofun⟩
      · exact ⟨.refl fs, nofun⟩
      · rename_i hcreate
        obtain ⟨hholds, hgrows⟩ := PidFile.holds_of_create hcreate
        exact ⟨hgrows, hholds⟩
    | created p => cases hm
    | inspected p => cases hm
    | prepared p => cases hm

/-- An owner keeps the file, with its process id in the end, and comes closer to its end; or it removes the file and
    ends. -/
theorem step_of_owner (hm : m.owner = true) (hpath : m.process.pidPath = some path) (hfinds : m.Finds fs path)
    (hpermits : fs.Permits) (s : Surroundings) :
    (m.step s fs).2.refusals = fs.refusals ∧
      (((m.step s fs).1.owner = true ∧ (m.step s fs).1.left < m.left ∧
          (m.step s fs).1.Finds (m.step s fs).2 path) ∨
        ((m.step s fs).1.owner = false ∧ (∃ failure, (m.step s fs).1.process.stage = .ended failure) ∧
          ∃ p, PidFile.Vacant (m.step s fs).2 path p)) := by
  cases m with
  | running i =>
    obtain ⟨p, hholds⟩ := hfinds hm
    have hpid : (i.step s fs).1.pid = i.pid := (i.step_same s fs).1
    rcases i.step_of_held s hm fs with ⟨hfiles, hheld, hleft⟩ | ⟨failure, -, heq⟩
    · rw [step_running, hfiles]
      exact ⟨rfl, Or.inl ⟨hheld, hleft, fun _ => ⟨p, by rw [hpid]; exact hholds⟩⟩⟩
    · have hremoved := hholds.remove hpermits i.orchestrator.telemetry
      rw [step_running, heq]
      simp only [Instance.removePid, show i.pidPath = some path from hpath, hremoved]
      exact ⟨Files.set_refusals _ _ _, Or.inr ⟨rfl, ⟨failure, rfl⟩, p, hholds.erase⟩⟩
  | writing part i =>
    rw [step_writing (i := i) hpath]
    cases part with
    | arriving => cases hm
    | made => cases hm
    | created p =>
      have hholds : PidFile.Holds fs path p [] := hfinds
      obtain ⟨mode, hfile⟩ := hholds.node?
      rw [write, hpermits.inspect]
      simp only [hfile]
      exact ⟨rfl, Or.inl ⟨rfl, Nat.lt_add_one 6, hholds⟩⟩
    | inspected p =>
      have hholds : PidFile.Holds fs path p [] := hfinds
      obtain ⟨fs', hset, hholds', hrefusals⟩ := hholds.setMode hpermits PidFile.finalMode
      rw [write, hset]
      exact ⟨hrefusals, Or.inl ⟨rfl, Nat.lt_add_one 5, hholds'⟩⟩
    | prepared p =>
      have hholds : PidFile.Holds fs path p [] := hfinds
      obtain ⟨fs', happend, hholds', hrefusals⟩ := hholds.append hpermits (PidFile.line i.pid)
      rw [write, happend]
      exact ⟨hrefusals, Or.inl ⟨rfl, Nat.lt_add_one 4, fun _ => ⟨p, hholds'⟩⟩⟩

/-- A write that is refused because the file is there changes nothing. -/
theorem step_of_refused (hm : m.owner = false) (hbegun : m.Begun) (hpath : m.process.pidPath = some path)
    (s : Surroundings) (fs : Files) {other owner : String}
    (hrefused : (m.step s fs).1.process.stage = .ended (some (.pidFileExists other owner))) : (m.step s fs).2 = fs := by
  cases m with
  | running i => rw [step_running, i.step_of_ended s hbegun hm]
  | writing part i =>
    have hstage : i.stage = .writing := hbegun
    rw [step_writing (i := i) hpath] at hrefused ⊢
    cases part with
    | arriving =>
      rw [write] at hrefused
      split at hrefused
      · cases hrefused
      · rw [show (writing .made i).process.stage = .writing from hstage] at hrefused
        cases hrefused
    | made =>
      rw [write] at hrefused ⊢
      split at hrefused
      · rfl
      · rfl
      · rw [show (writing (.created _) i).process.stage = .writing from hstage] at hrefused
        cases hrefused
    | created p => cases hm
    | inspected p => cases hm
    | prepared p => cases hm

end Member

/-! ### Instances among each other -/

/-- Several instances on one tree of files. -/
structure Fleet where
  members : List Member
  files : Files
deriving DecidableEq, Repr

namespace Fleet

/-- Instances of which none has done anything. -/
def gather (instances : List Instance) (fs : Files) : Fleet := ⟨instances.map (.writing .arriving), fs⟩

/-- One step of one of the instances, if there is one of that number. -/
def step (x : Fleet) (k : Nat) (s : Surroundings) : Fleet :=
  match x.members[k]? with
  | none => x
  | some m => ⟨x.members.set k (m.step s x.files).1, (m.step s x.files).2⟩

/-- The instances after some steps, each with the number of the one that takes it and with what it meets. -/
def perform (x : Fleet) (schedule : List (Nat × Surroundings)) : Fleet :=
  schedule.foldl (fun x turn => x.step turn.1 turn.2) x

variable {x : Fleet} {path : String} {m : Member} {k : Nat}

theorem step_eq (hm : x.members[k]? = some m) (s : Surroundings) :
    x.step k s = ⟨x.members.set k (m.step s x.files).1, (m.step s x.files).2⟩ := by
  simp only [step, hm]

/-- Every instance has the same file, one of them at most owns it, and that one finds it as it left it. -/
structure Exclusive (path : String) (x : Fleet) : Prop where
  permits : x.files.Permits
  begun : ∀ m ∈ x.members, m.Begun
  paths : ∀ m ∈ x.members, m.process.pidPath = some path
  finds : ∀ m ∈ x.members, m.Finds x.files path
  single : ∀ (j k : Nat) (m m' : Member), x.members[j]? = some m → x.members[k]? = some m' → m.owner = true →
    m'.owner = true → j = k

namespace Exclusive

theorem gather {instances : List Instance} {fs : Files} (hpermits : fs.Permits)
    (hinstances : ∀ i ∈ instances, i.stage = .writing ∧ i.pidPath = some path) :
    (Fleet.gather instances fs).Exclusive path := by
  have hmembers : ∀ m ∈ (Fleet.gather instances fs).members, ∃ i ∈ instances, m = .writing .arriving i := by
    intro m hm
    obtain ⟨i, hi, rfl⟩ := List.mem_map.mp hm
    exact ⟨i, hi, rfl⟩
  refine ⟨hpermits, fun m hm => ?_, fun m hm => ?_, fun m hm => ?_, fun j k m m' hj _ howner _ => ?_⟩
  · obtain ⟨i, hi, rfl⟩ := hmembers m hm
    exact (hinstances i hi).1
  · obtain ⟨i, hi, rfl⟩ := hmembers m hm
    exact (hinstances i hi).2
  · obtain ⟨i, -, rfl⟩ := hmembers m hm
    trivial
  · obtain ⟨i, -, rfl⟩ := hmembers m (List.mem_of_getElem? hj)
    cases howner

/-- Who stands where after one was replaced. -/
theorem getElem?_replaced {members : List Member} {j : Nat} {m m' : Member} (h : (members.set k m')[j]? = some m) :
    (j = k ∧ m = m') ∨ (j ≠ k ∧ members[j]? = some m) := by
  by_cases hj : j = k
  · subst hj
    rw [List.getElem?_set_self'] at h
    obtain ⟨-, -, rfl⟩ := Option.map_eq_some_iff.mp h
    exact Or.inl ⟨rfl, rfl⟩
  · rw [List.getElem?_set_ne (Ne.symm hj)] at h
    exact Or.inr ⟨hj, h⟩

/-- A step keeps this if the one that takes it finds what it should, and no other owns a file that was changed. -/
theorem replace (hx : x.Exclusive path) {m' : Member} {fs : Files} (hpermits : fs.Permits) (hbegun : m'.Begun)
    (hpath : m'.process.pidPath = some path) (hfinds : m'.Finds fs path)
    (hothers : ∀ (j : Nat) (m : Member), x.members[j]? = some m → j ≠ k → m.owner = true →
      fs = x.files ∧ m'.owner = false) : Exclusive path ⟨x.members.set k m', fs⟩ := by
  have hcases : ∀ m ∈ x.members.set k m', m = m' ∨ ∃ j, j ≠ k ∧ x.members[j]? = some m := by
    intro m hm
    obtain ⟨j, hj⟩ := List.mem_iff_getElem?.mp hm
    rcases getElem?_replaced hj with ⟨-, rfl⟩ | ⟨hne, hj⟩
    · exact Or.inl rfl
    · exact Or.inr ⟨j, hne, hj⟩
  refine ⟨hpermits, fun m hm => ?_, fun m hm => ?_, fun m hm => ?_, fun j₁ j₂ m₁ m₂ h₁ h₂ howner₁ howner₂ => ?_⟩
  · rcases hcases m hm with rfl | ⟨j, -, hj⟩
    · exact hbegun
    · exact hx.begun m (List.mem_of_getElem? hj)
  · rcases hcases m hm with rfl | ⟨j, -, hj⟩
    · exact hpath
    · exact hx.paths m (List.mem_of_getElem? hj)
  · rcases hcases m hm with rfl | ⟨j, hne, hj⟩
    · exact hfinds
    · cases howner : m.owner with
      | false => exact Member.finds_of_not_owner howner fs path
      | true =>
        rw [(hothers j m hj hne howner).1]
        exact hx.finds m (List.mem_of_getElem? hj)
  · rcases getElem?_replaced h₁ with ⟨rfl, rfl⟩ | ⟨hne₁, hold₁⟩ <;>
      rcases getElem?_replaced h₂ with ⟨rfl, rfl⟩ | ⟨hne₂, hold₂⟩
    · rfl
    · exact absurd ((hothers j₂ m₂ hold₂ hne₂ howner₂).2.symm.trans howner₁) nofun
    · exact absurd ((hothers j₁ m₁ hold₁ hne₁ howner₁).2.symm.trans howner₂) nofun
    · exact hx.single j₁ j₂ m₁ m₂ hold₁ hold₂ howner₁ howner₂

theorem step (hx : x.Exclusive path) (k : Nat) (s : Surroundings) : (x.step k s).Exclusive path := by
  cases hm : x.members[k]? with
  | none => simpa only [Fleet.step, hm] using hx
  | some m =>
    have hmem := List.mem_of_getElem? hm
    obtain ⟨⟨-, hsame⟩, hbegun⟩ := Member.step_after (hx.begun m hmem) s x.files
    have hpath := hsame.trans (hx.paths m hmem)
    rw [step_eq hm]
    cases howner : m.owner with
    | true =>
      obtain ⟨hrefusals, hnext⟩ := Member.step_of_owner howner (hx.paths m hmem) (hx.finds m hmem) hx.permits s
      have hfinds : (m.step s x.files).1.Finds (m.step s x.files).2 path := by
        rcases hnext with ⟨-, -, hfinds⟩ | ⟨hended, -⟩
        · exact hfinds
        · exact Member.finds_of_not_owner hended _ path
      refine hx.replace (hx.permits.congr hrefusals) hbegun hpath hfinds fun j m₂ hj hne howner₂ => ?_
      exact absurd (hx.single j k m₂ m hj hm howner₂ howner) hne
    | false =>
      obtain ⟨hgrows, hfinds⟩ := Member.step_of_not_owner howner (hx.begun m hmem) (hx.paths m hmem) s x.files
      refine hx.replace (hx.permits.congr hgrows.refusals) hbegun hpath hfinds fun j m₂ hj _ howner₂ => ?_
      -- Another one owns the file, so it is there, and whoever finds it there goes away.
      obtain ⟨p, content, hholds⟩ := (hx.finds m₂ (List.mem_of_getElem? hj)).holds howner₂
      exact Member.step_of_holds howner (hx.begun m hmem) (hx.paths m hmem) hholds s

theorem perform (hx : x.Exclusive path) (schedule : List (Nat × Surroundings)) :
    (x.perform schedule).Exclusive path := by
  induction schedule generalizing x with
  | nil => exact hx
  | cons turn rest ih => exact ih (hx.step turn.1 turn.2)

end Exclusive

/-- At most one of several instances owns the file for the process id. Take any number of instances with the same path
    for it, on any tree of files where what an owner does with its file succeeds and which nobody else touches, and let
    them take their steps in any order, the parts of their writes apart from each other, each step meeting whatever it
    meets. Then at every moment one of them at most has created the file and not removed it; and when it has written
    the file to its end, what is read at the path is the line of its process id. Who is no owner takes nothing away that
    is there, changes nothing at all while another is the owner, and changes nothing when it is refused because the
    file is there. And whatever a step of the owner comes to, it is still the owner, with fewer steps left, or its run has
    ended and the file is gone; and then the write of any instance with that path succeeds. -/
theorem one_owner {instances : List Instance} {fs : Files} (hpermits : fs.Permits)
    (hinstances : ∀ i ∈ instances, i.stage = .writing ∧ i.pidPath = some path) (schedule : List (Nat × Surroundings)) :
    let x := (gather instances fs).perform schedule
    (∀ (j k : Nat) (m m' : Member), x.members[j]? = some m → x.members[k]? = some m' →
        m.owner = true → m'.owner = true → j = k) ∧
      (∀ m ∈ x.members, m.written = true → x.files.read path = .ok (PidFile.line m.process.pid)) ∧
      (∀ (k : Nat) (m : Member) (s : Surroundings), x.members[k]? = some m → m.owner = false →
        (∀ p node, x.files.node? p = some node → (x.step k s).files.node? p = some node) ∧
          ((∃ m' ∈ x.members, m'.owner = true) → (x.step k s).files = x.files) ∧
          (∀ other owner, (m.step s x.files).1.process.stage = .ended (some (.pidFileExists other owner)) →
            (x.step k s).files = x.files)) ∧
      (∀ (k : Nat) (m : Member) (s : Surroundings), x.members[k]? = some m → m.owner = true →
        ((m.step s x.files).1.owner = true ∧ (m.step s x.files).1.left < m.left) ∨
          ((∃ failure, (m.step s x.files).1.process.stage = .ended failure) ∧ (x.step k s).files.look path = none ∧
            ∀ i : Instance, i.pidPath = some path → (i.writePid (x.step k s).files).1.stage = .starting)) := by
  intro x
  have hx : x.Exclusive path := (Exclusive.gather hpermits hinstances).perform schedule
  refine ⟨hx.single, fun m hm hwritten => ?_, fun k m s hm howner => ?_, fun k m s hm howner => ?_⟩
  · cases m with
    | writing part i => cases hwritten
    | running i =>
      obtain ⟨p, hholds⟩ := hx.finds _ hm hwritten
      exact hholds.read
  · have hmem := List.mem_of_getElem? hm
    obtain ⟨hgrows, -⟩ := Member.step_of_not_owner howner (hx.begun m hmem) (hx.paths m hmem) s x.files
    rw [step_eq hm]
    refine ⟨fun p node hnode => hgrows.kept hnode, fun ⟨m', hm', howner'⟩ => ?_, fun other owner hrefused => ?_⟩
    · obtain ⟨p, content, hholds⟩ := (hx.finds m' hm').holds howner'
      exact (Member.step_of_holds howner (hx.begun m hmem) (hx.paths m hmem) hholds s).1
    · exact Member.step_of_refused howner (hx.begun m hmem) (hx.paths m hmem) s x.files hrefused
  · have hmem := List.mem_of_getElem? hm
    obtain ⟨hrefusals, ⟨hstays, hleft, -⟩ | ⟨-, hended, p, hvacant⟩⟩ :=
      Member.step_of_owner howner (hx.paths m hmem) (hx.finds m hmem) hx.permits s
    · exact Or.inl ⟨hstays, hleft⟩
    · rw [step_eq hm]
      exact Or.inr ⟨hended, hvacant.look, fun i hi => i.writePid_of_vacant hi hvacant (hx.permits.congr hrefusals)⟩

/-- Two instances arrive, and the second creates the file first. So the first is refused, and so is a third that comes
    while the second runs; when the wait of the second for a signal has failed, it removes the file in the end. -/
theorem one_owner_interleaved :
    let path := "run/portwatch.pid"
    let instanceOf : Nat → Instance := fun pid =>
      ⟨.around { general := { pidFile := path } } none .empty, pid, .writing⟩
    let s : Surroundings := ⟨⟨1, 4096, [], none, fun _ => none, fun _ => none⟩, fun _ => none, .error "no signals", []⟩
    let x := (gather ([41, 42, 43].map instanceOf) .empty).perform ([0, 1, 1, 0, 1, 1, 1, 2].map (·, s))
    let y := (gather ([41, 42, 43].map instanceOf) .empty).perform ([0, 1, 1, 0, 1, 1, 1, 2, 2, 1, 1, 1].map (·, s))
    x.members.map Member.owner = [false, true, false] ∧ x.files.read path = .ok (PidFile.line 42) ∧
      (x.step 2 s).files = x.files ∧ (y.step 1 s).files.look path = none := by
  intro path instanceOf s x y
  have hpermits : Files.empty.Permits := ⟨rfl, rfl, fun _ => rfl, rfl⟩
  have hinstances : ∀ i ∈ [41, 42, 43].map instanceOf, i.stage = .writing ∧ i.pidPath = some path := by
    intro i hi
    obtain ⟨pid, -, rfl⟩ := List.mem_map.mp hi
    exact ⟨rfl, rfl⟩
  obtain ⟨-, hwritten, hothers, -⟩ := one_owner hpermits hinstances ([0, 1, 1, 0, 1, 1, 1, 2].map (·, s))
  obtain ⟨-, -, -, howner⟩ := one_owner hpermits hinstances ([0, 1, 1, 0, 1, 1, 1, 2, 2, 1, 1, 1].map (·, s))
  have hserving : x.members[1]?.map (fun m => (m.written, m.process.pid)) = some (true, 42) := by decide +kernel
  have harrived : x.members[2]?.map Member.owner = some false := by decide +kernel
  have hremoving : y.members[1]?.map (fun m => (m.owner, (m.step s y.files).1.owner)) = some (true, false) := by
    decide +kernel
  obtain ⟨m₁, hm₁, hpair₁⟩ := Option.map_eq_some_iff.mp hserving
  obtain ⟨m₂, hm₂, howner₂⟩ := Option.map_eq_some_iff.mp harrived
  obtain ⟨m₃, hm₃, hpair₃⟩ := Option.map_eq_some_iff.mp hremoving
  obtain ⟨hwritten₁, hpid₁⟩ := Prod.mk.inj hpair₁
  obtain ⟨howner₃, hended₃⟩ := Prod.mk.inj hpair₃
  have hmem₁ := List.mem_of_getElem? hm₁
  refine ⟨by decide +kernel, ?_, ?_, ?_⟩
  · rw [← hpid₁]
    exact hwritten m₁ hmem₁ hwritten₁
  · exact (hothers 2 m₂ s hm₂ howner₂).2.1 ⟨m₁, hmem₁, Member.owner_of_written hwritten₁⟩
  · rcases howner 1 m₃ s hm₃ howner₃ with ⟨hstays, -⟩ | ⟨-, hgone, -⟩
    · rw [hended₃] at hstays
      cases hstays
    · exact hgone

end Fleet
end FrameSentry
