import FrameSentry.Proofs.Daemon.PidFile
import FrameSentry.Proofs.Files.Furnishing
import FrameSentry.Proofs.Text.Decimal
import FrameSentry.Proofs.Text.Pieces

/-! What a write of the file leaves that fails. Up to the creation of the file all it has made are directories. From then
    on a refusal ends the work where it is, and the file stays, with no more than a part of the process id, to keep out
    whoever comes next. -/

namespace FrameSentry.PidFile
variable {fs fs' : Files} {path : String} {p : Place} {pid : Nat} {content : Bytes}

/-! ### The line -/

theorem utf8Size_of_isDigit {c : Char} (h : c.isDigit = true) : c.utf8Size = 1 := by
  simp only [Char.isDigit, Bool.and_eq_true, decide_eq_true_eq, UInt32.le_iff_toNat_le] at h
  have hle : c.val.toNat ≤ 57 := h.2
  unfold Char.utf8Size
  rw [if_pos]
  exact UInt32.le_iff_toNat_le.mpr (Nat.le_trans hle (by decide))

theorem isBlank_of_isDigit {c : Char} (h : c.isDigit = true) : isBlank c = false := by
  simp only [Char.isDigit, Bool.and_eq_true, decide_eq_true_eq, UInt32.le_iff_toNat_le] at h
  have hle : 48 ≤ c.toNat ∧ c.toNat ≤ 57 := h
  simp only [isBlank, Bool.or_eq_false_iff, Bool.and_eq_false_imp, decide_eq_true_eq, decide_eq_false_iff_not,
    beq_eq_false_iff_ne]
  omega

/-- Characters of one byte each are the text of their bytes. -/
theorem utf8Encode_single {l : List Char} (h : ∀ c ∈ l, c.utf8Size = 1) :
    l.utf8Encode.data.toList = l.map fun c => c.val.toUInt8 := by
  induction l with
  | nil => rfl
  | cons c rest ih =>
    rw [List.utf8Encode_cons, List.utf8Encode_singleton, String.utf8EncodeChar_eq_singleton (h c List.mem_cons_self),
      ByteArray.data_append, Array.toList_append, ih fun c hc => h c (List.mem_cons_of_mem _ hc)]
    rfl

theorem decodeText_utf8Encode (l : List Char) : Files.decodeText l.utf8Encode.data.toList = .ok (String.ofList l) := by
  have hvalid : l.utf8Encode.IsValidUTF8 := ByteArray.isValidUTF8_utf8Encode
  unfold Files.decodeText
  rw [show ByteArray.mk l.utf8Encode.data.toList.toArray = l.utf8Encode from rfl]
  simp only [String.fromUTF8?, hvalid]
  rfl

theorem isDigit_of_mem_write {c : Char} (hc : c ∈ Numeral.write 10 pid) : c.isDigit = true :=
  Nat.isDigit_of_mem_toDigits (by decide) (by decide) hc

theorem line_eq (pid : Nat) : line pid = (Numeral.write 10 pid ++ ['\n']).map fun c => c.val.toUInt8 := by
  have htext : (s!"{pid}\n").toList = Numeral.write 10 pid ++ ['\n'] := by simp [toString, Numeral.write]
  unfold line
  rw [← utf8Encode_single, ← htext, String.utf8Encode_toList]
  · rfl
  · intro c hc
    rcases List.mem_append.mp hc with hc | hc
    · exact utf8Size_of_isDigit (isDigit_of_mem_write hc)
    · rw [List.mem_singleton.mp hc]
      rfl

theorem line_ne_nil (pid : Nat) : line pid ≠ [] := by
  rw [line_eq]
  simp

/-- A file with a part of the line seems to belong to whoever the first digits stand for. -/
theorem owner_of_front (hread : fs.read path = .ok content) (hfront : content <+: line pid) (hpart : content ≠ line pid) :
    owner path fs = String.ofList ((Numeral.write 10 pid).take content.length) := by
  have hlength : content.length ≤ (Numeral.write 10 pid).length := by
    have hle := hfront.length_le
    have hne : content.length ≠ (line pid).length := fun heq => hpart (hfront.eq_of_length heq)
    rw [line_eq, List.length_map, List.length_append, List.length_singleton] at hle hne
    omega
  let kept := (Numeral.write 10 pid).take content.length
  have hdigits : ∀ c ∈ kept, c.isDigit = true := fun c hc => isDigit_of_mem_write (List.mem_of_mem_take hc)
  have hcontent : content = kept.utf8Encode.data.toList := calc
    content = (line pid).take content.length := List.prefix_iff_eq_take.mp hfront
    _ = kept.map fun c => c.val.toUInt8 := by
      rw [line_eq, ← List.map_take, List.take_append_of_le_length hlength]
    _ = kept.utf8Encode.data.toList := (utf8Encode_single fun c hc => utf8Size_of_isDigit (hdigits c hc)).symm
  have htrim : trim kept = kept := by
    refine (Stripped.eq_trim ⟨⟨[], [], by simp, nofun, nofun⟩, fun c hc => ?_, fun c hc => ?_⟩).symm
    · exact isBlank_of_isDigit (hdigits c (List.mem_of_mem_head? hc))
    · exact isBlank_of_isDigit (hdigits c (List.mem_of_mem_getLast? hc))
  have htext : fs.readText path = .ok (String.ofList kept) := by
    unfold Files.readText
    rw [hread]
    show Files.decodeText content = _
    rw [hcontent, decodeText_utf8Encode]
  unfold owner
  rw [htext]
  simp only [String.toList_ofList, htrim]
  rfl

/-! ### What the system permits -/

/-- The directories are made, and so is the file. -/
def Creates (path : String) (fs : Files) : Prop :=
  (makeParents path fs).1 = .ok () ∧ ∃ p fs', (makeParents path fs).2.create path newMode = .ok (p, fs')

/-- What the system says to the work on the new file. -/
def permitFill (pid : Nat) (fs : Files) : Except FileError Unit := do
  fs.permit .inspect
  fs.permit .setMode
  (fs.accept 0 (line pid)).1

/-- What this work leaves in the file: as much of the line as is accepted, if it comes so far. -/
def filled (pid : Nat) (fs : Files) : Bytes :=
  match fs.permit .inspect, fs.permit .setMode with
  | .ok _, .ok _ => (fs.accept 0 (line pid)).2
  | _, _ => []

theorem permitFill_congr (h : fs'.refusals = fs.refusals) (pid : Nat) : permitFill pid fs' = permitFill pid fs := by
  simp only [permitFill, Files.permit_congr h, Files.accept_congr h]

theorem filled_congr (h : fs'.refusals = fs.refusals) (pid : Nat) : filled pid fs' = filled pid fs := by
  simp only [filled, Files.permit_congr h, Files.accept_congr h]

/-- Work that is refused leaves the front of the line, and not the whole. -/
theorem filled_of_error {e : FileError} (h : permitFill pid fs = .error e) :
    filled pid fs <+: line pid ∧ filled pid fs ≠ line pid := by
  have hempty : ([] : Bytes) <+: line pid ∧ [] ≠ line pid := ⟨List.nil_prefix, (line_ne_nil pid).symm⟩
  obtain ⟨hfront, hall⟩ := fs.accept_front 0 (line pid)
  unfold permitFill at h
  unfold filled
  cases hinspect : fs.permit .inspect with
  | error _ => exact hempty
  | ok _ =>
    cases hmode : fs.permit .setMode with
    | error _ => exact hempty
    | ok _ =>
      rw [hinspect, hmode] at h
      refine ⟨hfront, fun hwhole => ?_⟩
      rw [show (fs.accept 0 (line pid)).1 = .error e from h] at hall
      cases hall.mpr hwhole

theorem furnishes_makeParents (path : String) (fs : Files) : fs.Furnishes (makeParents path fs).2 :=
  .makeDirectories fs directoryMode _

/-! ### The new file -/

namespace Holds

/-- The file is in the way of everybody, whatever the system lets them do. They take what it holds for its owner. -/
theorem refuses (h : Holds fs path p content) (pid : Nat) (refusals : List (FileOperation × FileError)) (t : Telemetry) :
    write path pid { fs with refusals } t = (.error (.pidFileExists path (owner path fs)), { fs with refusals }, t) := by
  have hreaches : ({ fs with refusals } : Files).Reaches (.ofText path) p := h.reaches.mono fun _ hp => hp
  obtain ⟨mode, hfile⟩ := h.node?
  obtain ⟨mode', hfound⟩ := h.file
  have hread : ({ fs with refusals } : Files).read path = fs.read path :=
    (Files.read_of_reaches hreaches hfile).trans h.read.symm
  have hcreate : ({ fs with refusals } : Files).create path newMode = .error .exists :=
    Files.create_of_some hreaches (Option.isSome_of_eq_some hfound)
  have howner : owner path { fs with refusals } = owner path fs := by
    unfold owner Files.readText
    rw [hread]
  unfold write make
  rw [makeParents_of_reaches hreaches]
  simp only [hcreate, howner]

/-- The work on it comes to what the system says, and changes nothing but this file. -/
theorem fillNew (h : Holds fs path p []) (pid : Nat) :
    ∃ fs', fillNew path pid p fs = ((permitFill pid fs).mapError (.system ·.message), fs') ∧
      Holds fs' path p (filled pid fs) ∧
      ∀ fs₀ : Files, fs₀.find? p = none → fs₀.Grows fs → fs₀.Grows fs' := by
  obtain ⟨mode, hfile⟩ := h.node?
  unfold PidFile.fillNew permitFill filled
  cases hinspect : fs.permit .inspect with
  | error e => exact ⟨fs, rfl, h, fun _ _ hgrows => hgrows⟩
  | ok _ =>
    cases hmode : fs.permit .setMode with
    | error e =>
      have hset : fs.setMode p finalMode = .error e := by
        unfold Files.setMode
        rw [hmode]
        rfl
      simp only [hfile, hset]
      exact ⟨fs, rfl, h, fun _ _ hgrows => hgrows⟩
    | ok _ =>
      simp only [hfile, Files.setMode_of_file hmode hfile]
      have hset := h.put finalMode []
      obtain ⟨mode', hfile'⟩ := hset.node?
      have happend := Files.append_of_file hfile' (line pid)
      have hrefusals : (fs.put p (.file finalMode [])).refusals = fs.refusals := Files.set_refusals _ _ _
      rw [List.length_nil, List.nil_append, Files.accept_congr hrefusals] at happend
      refine ⟨_, ?_, hset.put mode' _, fun _ hnone hgrows => (hgrows.put_after hnone _).put_after hnone _⟩
      simp only [happend]
      cases (fs.accept 0 (line pid)).1 <;> rfl

end Holds

/-! ### Writing -/

theorem write_fst (path : String) (pid : Nat) (fs : Files) (t : Telemetry) :
    (write path pid fs t).1 = (make path pid fs).1 := by
  unfold write
  split <;> rename_i hmake <;> rw [hmake]

theorem write_error {pid : Nat} {t t' : Telemetry} {e : DaemonError} (h : write path pid fs t = (.error e, fs', t')) :
    make path pid fs = (.error e, fs') ∧ t' = t := by
  unfold write at h
  split at h <;> cases h
  exact ⟨‹_›, rfl⟩

theorem make_of_not_creates (h : ¬ Creates path fs) (pid : Nat) :
    ∃ e, make path pid fs = (.error e, (makeParents path fs).2) := by
  unfold make
  split
  · rename_i hmade
    exact ⟨_, by rw [hmade]⟩
  · rename_i fs₁ hmade
    rw [hmade]
    split
    · exact ⟨_, rfl⟩
    · exact ⟨_, rfl⟩
    · rename_i p fs₂ hcreate
      exact absurd ⟨by rw [hmade], p, fs₂, by rw [hmade]; exact hcreate⟩ h

/-- A file that is made was not there, and whatever the system says it is there then. -/
theorem make_of_creates (h : Creates path fs) (pid : Nat) :
    ∃ fs' p, make path pid fs = ((permitFill pid fs).mapError (.system ·.message), fs') ∧ fs.look path = none ∧
      fs.Grows fs' ∧ Holds fs' path p (filled pid fs) := by
  obtain ⟨hparents, p, fs₂, hcreate⟩ := h
  have hmake : make path pid fs = fillNew path pid p fs₂ := by
    unfold make
    split
    · rename_i hmade
      rw [hmade] at hparents
      cases hparents
    · rename_i hmade
      rw [hmade] at hcreate
      rw [hcreate]
  obtain ⟨hreaches, hnone, -, -⟩ := Files.create_ok hcreate
  obtain ⟨hholds, hgrows⟩ := holds_of_create hcreate
  have hparents := (furnishes_makeParents path fs).grows
  have hlook : fs.look path = none := by
    rw [Option.eq_none_iff_forall_ne_some]
    intro node hlook
    have hthere := hparents.look hlook
    rw [Files.look_of_reaches hreaches, Files.node?, hnone] at hthere
    cases hthere
  obtain ⟨fs', hfill, hleft, hgrows'⟩ := hholds.fillNew pid
  have hrefusals := (hparents.trans hgrows).refusals
  rw [permitFill_congr hrefusals] at hfill
  rw [filled_congr hrefusals] at hleft
  exact ⟨fs', p, hmake.trans hfill, hlook, hparents.trans (hgrows' _ hnone hgrows), hleft⟩

/-- A write succeeds just if the file is made and the system permits the work on it. One that fails tells nothing and
    takes nothing away. If it fails before the file is made, the files are those of before. If it fails later, it leaves at
    the path, where nothing was, a file with what was written of the process id, which is not the whole line; this file
    refuses every write from then on, and whoever is refused takes the digits in it for its owner. So, as long as the path
    does not go up, a failed write leaves a file there only if that file was there before, just in case it failed before
    its own was made. -/
theorem failed_write_leaves (path : String) (pid : Nat) (fs : Files) (t : Telemetry) :
    ((write path pid fs t).1 = .ok () ↔ Creates path fs ∧ permitFill pid fs = .ok ()) ∧
      ∀ e after t', write path pid fs t = (.error e, after, t') →
        t' = t ∧ fs.Grows after ∧
        (Creates path fs → (∃ cause, permitFill pid fs = .error cause ∧ e = .system cause.message) ∧
          fs.look path = none ∧ (∃ mode, after.look path = some (.file mode (filled pid fs))) ∧
          filled pid fs <+: line pid ∧ filled pid fs ≠ line pid ∧
          ∀ other refusals t, write path other { after with refusals } t =
            (.error (.pidFileExists path (String.ofList ((Numeral.write 10 pid).take (filled pid fs).length))),
              { after with refusals }, t)) ∧
        (¬ Creates path fs → fs.Furnishes after) ∧
        (".." ∉ (Path.ofText path).names →
          ((∀ mode content, after.look path = some (.file mode content) → fs.look path = some (.file mode content)) ↔
            ¬ Creates path fs)) := by
  by_cases hcreates : Creates path fs
  · obtain ⟨fs', p, hmake, hlook, hgrows, hholds⟩ := make_of_creates hcreates pid
    constructor
    · rw [write_fst, hmake]
      cases hpermit : permitFill pid fs with
      | error e => exact iff_of_false (fun h => by cases h) fun h => by cases h.2
      | ok _ => exact iff_of_true rfl ⟨hcreates, rfl⟩
    · intro e after t' hwrite
      obtain ⟨hfailed, rfl⟩ := write_error hwrite
      rw [hmake] at hfailed
      cases hpermit : permitFill pid fs with
      | ok _ =>
        rw [hpermit] at hfailed
        cases hfailed
      | error cause =>
        rw [hpermit] at hfailed
        cases hfailed
        obtain ⟨mode, hfile⟩ := hholds.node?
        have hafter := (Files.look_of_reaches hholds.reaches).trans hfile
        obtain ⟨hfront, hpart⟩ := filled_of_error hpermit
        have hrefuses := hholds.refuses
        rw [owner_of_front hholds.read hfront hpart] at hrefuses
        refine ⟨rfl, hgrows, fun _ => ⟨⟨cause, rfl, rfl⟩, hlook, ⟨mode, hafter⟩, hfront, hpart, hrefuses⟩,
          fun hnot => absurd hcreates hnot, fun _ => iff_of_false (fun hclean => ?_) fun hnot => hnot hcreates⟩
        have hbefore := hclean mode _ hafter
        rw [hlook] at hbefore
        cases hbefore
  · obtain ⟨e₁, hmake⟩ := make_of_not_creates hcreates pid
    constructor
    · rw [write_fst, hmake]
      simp [hcreates]
    · intro e after t' hwrite
      obtain ⟨hfailed, rfl⟩ := write_error hwrite
      rw [hmake] at hfailed
      cases hfailed
      have hfurnishes := furnishes_makeParents path fs
      exact ⟨rfl, hfurnishes.grows, fun h => absurd h hcreates, fun _ => hfurnishes, fun hup =>
        iff_of_true (fun _ _ => (hfurnishes.look_file hup).mp) hcreates⟩

/-- Where the system refuses to set permissions the write leaves an empty file, and even a process that is permitted all
    cannot write it then. Where there is room for one byte only, the first digit is left. And the
    directories that a failed write makes let a path go up from them to a file that it did not lead to. -/
theorem refused_write_leaves :
    let refusing : Files := ⟨[], [(.setMode, .notPermitted)]⟩
    let refused := write "run/portwatch.pid" 7 refusing .empty
    let narrow : Files := ⟨[], [(.write 1, .notPermitted)]⟩
    let stopped := write "run/portwatch.pid" 42 narrow .empty
    let held := Files.empty.plant "portwatch.pid" (.file 0o644 [53, 10])
    let found := write "run/../portwatch.pid" 7 held .empty
    refusing.look "run/portwatch.pid" = none ∧
      refused.1 = .error (.system "Operation not permitted (os error 1)") ∧
      refused.2.1.look "run/portwatch.pid" = some (.file 0o644 []) ∧
      (write "run/portwatch.pid" 8 { refused.2.1 with refusals := [] } .empty).1 =
        .error (.pidFileExists "run/portwatch.pid" "") ∧
      stopped.1 = .error (.system "Operation not permitted (os error 1)") ∧
      stopped.2.1.look "run/portwatch.pid" = some (.file 0o600 [52]) ∧
      held.look "run/../portwatch.pid" = none ∧
      found.1 = .error (.pidFileExists "run/../portwatch.pid" "5") ∧
      found.2.1.look "run/../portwatch.pid" = some (.file 0o644 [53, 10]) := by
  intro refusing refused narrow stopped held found
  exact ⟨by decide, rfl, by decide, rfl, rfl, by decide, by decide, rfl, by decide⟩

end FrameSentry.PidFile
