import FrameSentry.Daemon.PidFile
import FrameSentry.Proofs.Files.Walks

/-! The file that holds the process id, on a tree of files where what is done with it succeeds. As long as it is there
    nobody else creates it, and the directories for it are there as well. Its own changes keep it where it is; and where
    it was removed the next one can be written at once. -/

namespace FrameSentry

namespace Files
variable {fs fs' : Files} {p q : Place} {node : FileNode}

/-- The system lets one work with a file that one has created. -/
structure Permits (fs : Files) : Prop where
  inspect : fs.permit .inspect = .ok ()
  setMode : fs.permit .setMode = .ok ()
  write : ∀ position, fs.permit (.write position) = .ok ()
  remove : fs.permit .remove = .ok ()

theorem permit_congr (h : fs'.refusals = fs.refusals) (op : FileOperation) : fs'.permit op = fs.permit op := by
  unfold permit
  rw [h]

theorem Permits.congr (hp : fs.Permits) (h : fs'.refusals = fs.refusals) : fs'.Permits where
  inspect := (permit_congr h _).trans hp.inspect
  setMode := (permit_congr h _).trans hp.setMode
  write position := (permit_congr h _).trans (hp.write position)
  remove := (permit_congr h _).trans hp.remove

theorem setMode_of_file {mode' : Nat} {content : Bytes} (hpermit : fs.permit .setMode = .ok ())
    (hfile : fs.node? p = some (.file mode' content)) (mode : Nat) :
    fs.setMode p mode = .ok (fs.put p (.file mode content)) := by
  unfold setMode
  simp [hpermit, hfile, bind, Except.bind, pure, Except.pure]

theorem append_of_file {mode : Nat} {content : Bytes} (hfile : fs.node? p = some (.file mode content)) (bytes : Bytes) :
    fs.append p bytes = ((fs.accept content.length bytes).1,
      fs.put p (.file mode (content ++ (fs.accept content.length bytes).2))) := by
  unfold append
  rw [hfile]

theorem accept_congr (h : fs'.refusals = fs.refusals) (position : Nat) (bytes : Bytes) :
    fs'.accept position bytes = fs.accept position bytes := by
  induction bytes generalizing position with
  | nil => rfl
  | cons byte rest ih => simp only [accept, permit_congr h, ih]

/-- What is accepted is the front of the bytes, and all of them just if none is refused. -/
theorem accept_front (fs : Files) (position : Nat) (bytes : Bytes) : (fs.accept position bytes).2 <+: bytes ∧
    ((fs.accept position bytes).1 = .ok () ↔ (fs.accept position bytes).2 = bytes) := by
  induction bytes generalizing position with
  | nil => exact ⟨List.prefix_rfl, iff_of_true rfl rfl⟩
  | cons byte rest ih =>
    obtain ⟨hfront, hall⟩ := ih (position + 1)
    unfold accept
    cases fs.permit (.write position) with
    | error e => exact ⟨List.nil_prefix, iff_of_false nofun nofun⟩
    | ok _ => exact ⟨(List.prefix_cons_inj byte).mpr hfront, hall.trans (by simp)⟩

theorem Permits.accept (hp : fs.Permits) (position : Nat) (bytes : Bytes) :
    fs.accept position bytes = (.ok (), bytes) := by
  induction bytes generalizing position with
  | nil => rfl
  | cons byte rest ih => simp only [Files.accept, hp.write position, ih]

/-- Directories stay where they are when something else is changed. -/
theorem HasDirectory.of_ne (hq : fs.HasDirectory q) (hp : ¬ fs.HasDirectory p)
    (hother : q ≠ p → fs'.node? q = fs.node? q) : fs'.HasDirectory q := by
  obtain ⟨mode, hmode⟩ := hq
  refine ⟨mode, (hother ?_).trans hmode⟩
  rintro rfl
  exact hp ⟨mode, hmode⟩

end Files

namespace PidFile
variable {fs fs' : Files} {path : String} {p : Place} {content : Bytes} {pid : Nat}

/-- The file is there and holds these bytes; who has created it was permitted to. -/
structure Holds (fs : Files) (path : String) (p : Place) (content : Bytes) : Prop where
  reaches : fs.Reaches (.ofText path) p
  file : ∃ mode, fs.find? p = some (.file mode content, .empty)
  creatable : fs.permit .create = .ok ()

/-- The file is not there, and can be created. -/
structure Vacant (fs : Files) (path : String) (p : Place) : Prop where
  reaches : fs.Reaches (.ofText path) p
  free : fs.find? p = none
  creatable : fs.permit .create = .ok ()

theorem makeParents_of_reaches (h : fs.Reaches (.ofText path) p) : makeParents path fs = (.ok (), fs) :=
  Files.makeDirectories_of_reaches h

/-- A file in the place of another, or of nothing. -/
theorem holds_put (hreaches : fs.Reaches (.ofText path) p) (hcreatable : fs.permit .create = .ok ())
    (hbelow : FileTree.entriesOf (fs.find? p) = .empty) (hp : ¬ fs.HasDirectory p) (mode : Nat) (content : Bytes) :
    Holds (fs.put p (.file mode content)) path p content := by
  refine ⟨hreaches.mono fun q hq => hq.of_ne hp Files.node?_put_of_ne, ⟨mode, ?_⟩, by simpa using hcreatable⟩
  obtain ⟨a, name, above, rfl, habove⟩ := hreaches.parent
  rw [Files.find?_put_self habove, hbelow]

namespace Holds

theorem node? (h : Holds fs path p content) : ∃ mode, fs.node? p = some (.file mode content) := by
  obtain ⟨mode, hfile⟩ := h.file
  exact ⟨mode, by rw [Files.node?, hfile]; rfl⟩

theorem not_directory (h : Holds fs path p content) : ¬ fs.HasDirectory p := by
  rintro ⟨mode, hmode⟩
  obtain ⟨mode', hfile⟩ := h.node?
  rw [hfile] at hmode
  cases hmode

theorem below (h : Holds fs path p content) : FileTree.entriesOf (fs.find? p) = .empty := by
  obtain ⟨mode, hfile⟩ := h.file
  rw [hfile]
  rfl

theorem put (h : Holds fs path p content) (mode : Nat) (bytes : Bytes) :
    Holds (fs.put p (.file mode bytes)) path p bytes :=
  holds_put h.reaches h.creatable h.below h.not_directory mode bytes

theorem read (h : Holds fs path p content) : fs.read path = .ok content := by
  obtain ⟨mode, hfile⟩ := h.node?
  exact Files.read_of_reaches h.reaches hfile

/-- Nobody else creates it. -/
theorem create (h : Holds fs path p content) (mode : Nat) : fs.create path mode = .error .exists := by
  obtain ⟨mode', hfile⟩ := h.file
  exact Files.create_of_some h.reaches (Option.isSome_of_eq_some hfile)

theorem setMode (h : Holds fs path p content) (hpermits : fs.Permits) (mode : Nat) :
    ∃ fs', fs.setMode p mode = .ok fs' ∧ Holds fs' path p content ∧ fs'.refusals = fs.refusals := by
  obtain ⟨mode', hfile⟩ := h.node?
  exact ⟨_, Files.setMode_of_file hpermits.setMode hfile mode, h.put mode content, Files.set_refusals _ _ _⟩

theorem append (h : Holds fs path p content) (hpermits : fs.Permits) (bytes : Bytes) :
    ∃ fs', fs.append p bytes = (.ok (), fs') ∧ Holds fs' path p (content ++ bytes) ∧ fs'.refusals = fs.refusals := by
  obtain ⟨mode, hfile⟩ := h.node?
  have happend := Files.append_of_file hfile bytes
  rw [hpermits.accept] at happend
  exact ⟨_, happend, h.put mode _, Files.set_refusals _ _ _⟩

theorem erase (h : Holds fs path p content) : Vacant (fs.erase p) path p := by
  refine ⟨h.reaches.mono fun q hq => hq.of_ne h.not_directory fun hne => Files.node?_erase_of_ne hne h.below, ?_,
    by simpa using h.creatable⟩
  obtain ⟨a, name, above, rfl, habove⟩ := h.reaches.parent
  exact Files.find?_set_self habove

theorem remove (h : Holds fs path p content) (hpermits : fs.Permits) (t : Telemetry) :
    (PidFile.remove path fs t).1 = fs.erase p := by
  obtain ⟨mode, hfile⟩ := h.node?
  unfold PidFile.remove
  rw [Files.remove_of_reaches h.reaches hfile hpermits.remove]

end Holds

/-- A file that was created is there, and is empty. -/
theorem holds_of_create {mode : Nat} (h : fs.create path mode = .ok (p, fs')) : Holds fs' path p [] ∧ fs.Grows fs' := by
  obtain ⟨hreaches, hnone, hcreatable, rfl⟩ := Files.create_ok h
  refine ⟨holds_put hreaches hcreatable (by rw [hnone]; rfl) ?_ mode [], .put hnone _⟩
  rintro ⟨mode', hmode⟩
  rw [Files.node?, hnone] at hmode
  cases hmode

namespace Vacant

theorem look (h : Vacant fs path p) : fs.look path = none := by
  rw [Files.look_of_reaches h.reaches, Files.node?, h.free]
  rfl

/-- Where the file is not there, it is written. -/
theorem make (h : Vacant fs path p) (hpermits : fs.Permits) (pid : Nat) :
    ∃ fs', make path pid fs = (.ok (), fs') ∧ Holds fs' path p (line pid) := by
  have hcreate := Files.create_of_none h.reaches h.free h.creatable newMode
  have hnew := (holds_of_create hcreate).1
  have hpermits₁ : (fs.put p (.file newMode [])).Permits := hpermits.congr (Files.set_refusals _ _ _)
  obtain ⟨fs₂, hmode, hholds₂, hrefusals⟩ := hnew.setMode hpermits₁ finalMode
  obtain ⟨fs₃, happend, hholds₃, -⟩ := hholds₂.append (hpermits₁.congr hrefusals) (line pid)
  refine ⟨fs₃, ?_, hholds₃⟩
  obtain ⟨mode, hfile⟩ := hnew.node?
  unfold PidFile.make
  rw [makeParents_of_reaches h.reaches]
  simp only [hcreate]
  unfold fillNew
  simp [hpermits₁.inspect, hfile, FileNode.isDirectory, hmode, happend]

end Vacant
end PidFile
end FrameSentry
