import FrameSentry.Files
import FrameSentry.Proofs.Files.Places

/-! Where walks lead. A walk looks at nothing but which places are directories, so it leads to the same place in every
    tree that has these directories. From that follows what creating, reading and removing a file come to where a path
    reaches an entry of a directory, and that there are then no directories to be made for it. -/

namespace FrameSentry

/-! ### Walks -/

/-- The place that a name leads to from a directory. -/
def Place.next (p : Place) (name : String) : Place :=
  if Path.isIdle name then p
  else if name = ".." then
    match p.names with
    | [] => ⟨p.anchor.parent, []⟩
    | _ :: above => ⟨p.anchor, above⟩
  else ⟨p.anchor, name :: p.names⟩

theorem Place.next_of_proper (p : Place) {name : String} (hidle : Path.isIdle name = false) (hup : name ≠ "..") :
    p.next name = ⟨p.anchor, name :: p.names⟩ := by
  simp [next, hidle, hup]

theorem Path.size_of_isIdle {name : String} (h : isIdle name = true) : name.utf8ByteSize ≤ nameLimit := by
  rcases (show name = "" ∨ name = "." by simpa [isIdle] using h) with rfl | rfl <;> decide

namespace Files
variable {fs fs' : Files} {p q r : Place} {s s' : Spot} {name : String} {names : List String}

def HasDirectory (fs : Files) (p : Place) : Prop := ∃ mode, fs.node? p = some (.directory mode)

/-- Names lead from one place to another: every place that is left is a directory, and no name is too long. -/
def Leads (fs : Files) : List String → Place → Place → Prop
  | [], p, q => p = q
  | name :: names, p, q => fs.HasDirectory p ∧ name.utf8ByteSize ≤ Path.nameLimit ∧ fs.Leads names (p.next name) q

theorem leads_append {before behind : List String} :
    fs.Leads (before ++ behind) p q ↔ ∃ r, fs.Leads before p r ∧ fs.Leads behind r q := by
  induction before generalizing p with
  | nil => simp [Leads]
  | cons name before ih => simp [Leads, ih, and_assoc]

theorem leads_single : fs.Leads [name] p q ↔ fs.HasDirectory p ∧ name.utf8ByteSize ≤ Path.nameLimit ∧ p.next name = q :=
  Iff.rfl

/-- Where the directories are that a walk leaves, it leads to the same place. -/
theorem Leads.mono (hkeep : ∀ p, fs.HasDirectory p → fs'.HasDirectory p) (h : fs.Leads names p q) :
    fs'.Leads names p q := by
  induction names generalizing p with
  | nil => exact h
  | cons name names ih => exact ⟨hkeep p h.1, h.2.1, ih h.2.2⟩

/-! ### Spots -/

/-- The directories of a trail are those of the tree. -/
def Trailed (fs : Files) (a : Anchor) : List (String × FileNode × FileTree) → Prop
  | [] => True
  | (_, directory) :: trail => fs.find? ⟨a, trail.map (·.1)⟩ = some directory ∧ fs.Trailed a trail

/-- A walk is at a place, and has found what stands there. -/
structure Spot.At (fs : Files) (s : Spot) (p : Place) : Prop where
  place : s.place = p
  found : s.found = fs.find? p
  trail : fs.Trailed s.anchor s.trail

theorem Spot.At.node? (hs : s.At fs p) : s.node? = fs.node? p := by
  unfold Spot.node? Files.node?
  rw [hs.found]

theorem begin_at (fs : Files) (a : Anchor) : (fs.begin a).At fs ⟨a, []⟩ := ⟨rfl, rfl, trivial⟩

theorem ascend_at (hs : s.At fs p) : (fs.ascend s).At fs (p.next "..") := by
  obtain ⟨a, trail, found⟩ := s
  obtain ⟨rfl, -, htrail⟩ := hs
  cases trail with
  | nil => exact begin_at fs a.parent
  | cons x trail => exact ⟨rfl, htrail.1.symm, htrail.2⟩

theorem enter_ok (hs : s.At fs p) (h : fs.enter s name = .ok s') :
    fs.HasDirectory p ∧ name.utf8ByteSize ≤ Path.nameLimit ∧ s'.At fs (p.next name) := by
  unfold enter at h
  split at h
  · cases h
  · cases h
  rename_i mode below hfound
  have hfind : fs.find? p = some (.directory mode, below) := hs.found.symm.trans hfound
  refine ⟨⟨mode, by rw [Files.node?, hfind]; rfl⟩, ?_⟩
  split at h
  · rename_i hidle
    cases h
    exact ⟨Path.size_of_isIdle hidle, by rw [Place.next, if_pos hidle]; exact hs⟩
  rename_i hidle
  split at h
  · rename_i hup
    cases h
    subst hup
    exact ⟨by decide, ascend_at hs⟩
  rename_i hup
  split at h
  · cases h
  rename_i hsize
  cases h
  refine ⟨Nat.le_of_not_lt hsize, ?_⟩
  obtain ⟨rfl, -, htrail⟩ := hs
  rw [Place.next_of_proper _ (by simpa using hidle) hup]
  refine ⟨rfl, ?_, hfind, htrail⟩
  rw [find?_child]
  exact (congrArg (Option.bind · fun x => x.2.find? name) hfind).symm

theorem enter_of (hs : s.At fs p) (hp : fs.HasDirectory p) (hname : name.utf8ByteSize ≤ Path.nameLimit) :
    ∃ s', fs.enter s name = .ok s' ∧ s'.At fs (p.next name) := by
  obtain ⟨mode, hmode⟩ := hp
  obtain ⟨⟨_, below⟩, hfind, rfl⟩ := Option.map_eq_some_iff.mp hmode
  cases hs' : fs.enter s name with
  | ok s' => exact ⟨s', rfl, (enter_ok hs hs').2.2⟩
  | error e =>
    unfold enter at hs'
    simp only [hs.found, hfind] at hs'
    split at hs'
    · cases hs'
    split at hs'
    · cases hs'
    split at hs'
    · omega
    · cases hs'

theorem foldlM_ok (hs : s.At fs p) (h : names.foldlM fs.enter s = .ok s') : ∃ q, fs.Leads names p q ∧ s'.At fs q := by
  induction names generalizing s p with
  | nil =>
    cases h
    exact ⟨p, rfl, hs⟩
  | cons name names ih =>
    rw [List.foldlM_cons] at h
    cases henter : fs.enter s name with
    | error e => rw [henter] at h; cases h
    | ok s₁ =>
      rw [henter] at h
      obtain ⟨hp, hname, hs₁⟩ := enter_ok hs henter
      obtain ⟨q, hq, hs'⟩ := ih hs₁ h
      exact ⟨q, ⟨hp, hname, hq⟩, hs'⟩

theorem foldlM_of (hs : s.At fs p) (h : fs.Leads names p q) : ∃ s', names.foldlM fs.enter s = .ok s' ∧ s'.At fs q := by
  induction names generalizing s p with
  | nil => exact ⟨s, rfl, h ▸ hs⟩
  | cons name names ih =>
    obtain ⟨hp, hname, hq⟩ := h
    obtain ⟨s₁, henter, hs₁⟩ := enter_of hs hp hname
    obtain ⟨s', hs', hat⟩ := ih hs₁ hq
    exact ⟨s', by rw [List.foldlM_cons, henter]; exact hs', hat⟩

theorem walk_ok {a : Anchor} (h : fs.walk names a = .ok s) : ∃ q, fs.Leads names ⟨a, []⟩ q ∧ s.At fs q :=
  foldlM_ok (begin_at fs a) h

theorem walk_of {a : Anchor} (h : fs.Leads names ⟨a, []⟩ q) : ∃ s, fs.walk names a = .ok s ∧ s.At fs q :=
  foldlM_of (begin_at fs a) h

end Files

/-! ### Paths and the parts before their ends -/

namespace Path
variable {before names : List String} {name : String}

theorem trimmed_eq (hname : name ≠ "") : (Path.mk (before ++ [name])).trimmed = before ++ [name] := by
  simp [trimmed, hname]

theorem namesAbove_eq (hidle : isIdle name = false) : (Path.mk (before ++ [name])).namesAbove = before.reverse := by
  simp [namesAbove, hidle]

theorem size_foldr (names : List String) (n : Nat) :
    names.foldr (fun name n => name.utf8ByteSize + n) n =
      names.foldr (fun name n => name.utf8ByteSize + n) 0 + n := by
  induction names with
  | nil => simp
  | cons name names ih =>
    rw [List.foldr_cons, List.foldr_cons, ih]
    omega

theorem size_append (before behind : List String) : (Path.mk before).size ≤ (Path.mk (before ++ behind)).size := by
  show before.foldr _ 0 + (before.length - 1) ≤ (before ++ behind).foldr _ 0 + ((before ++ behind).length - 1)
  rw [List.foldr_append, size_foldr before (behind.foldr _ 0), List.length_append]
  omega

/-- A part of a path that ends in a name passes the check that the whole path passes. -/
theorem check_before {behind : List String} (hname : name ≠ "")
    (h : (Path.mk (before ++ [name] ++ behind)).check = .ok ()) : (Path.mk (before ++ [name])).check = .ok () := by
  have hpositive : 0 < (Path.mk (before ++ [name])).size := by
    have hsize : 0 < name.utf8ByteSize := Nat.pos_of_ne_zero (mt String.utf8ByteSize_eq_zero_iff.mp hname)
    show 0 < (before ++ [name]).foldr _ 0 + ((before ++ [name]).length - 1)
    rw [List.foldr_append, size_foldr before ([name].foldr _ 0)]
    simp only [List.foldr_cons, List.foldr_nil]
    omega
  have hle := size_append (before ++ [name]) behind
  unfold check at h ⊢
  split at h
  · cases h
  rename_i hnul
  split at h
  · cases h
  split at h
  · cases h
  rw [if_neg ?_, if_neg (by omega), if_neg (by omega)]
  simp only [List.any_append, Bool.or_eq_true] at hnul ⊢
  exact fun h => hnul (Or.inl h)

theorem start_cons_cons (first second : String) (rest : List String) :
    (Path.mk (first :: second :: rest)).start = if first = "" then .root else .working 0 := by
  unfold start
  split <;> simp_all

/-- And it begins where the whole path begins. -/
theorem start_before {behind : List String} (hname : name ≠ "") :
    (Path.mk (before ++ [name])).start = (Path.mk (before ++ [name] ++ behind)).start := by
  cases before with
  | nil => cases behind <;> simp [start, hname]
  | cons first before =>
    cases before <;> simp only [List.cons_append, List.nil_append, start_cons_cons]

end Path

/-! ### Where a path reaches an entry of a directory -/

namespace Files
variable {fs fs' : Files} {p q : Place} {path : Path} {name : String} {before : List String} {mode : Nat}

theorem ne_empty_of_not_idle (h : Path.isIdle name = false) : name ≠ "" := by
  rintro rfl
  cases h

/-- Before the last name of a path is looked up, the names before it are walked. -/
theorem lastStep_of_leads (hname : name ≠ "") (hcheck : (Path.mk (before ++ [name])).check = .ok ())
    (hleads : fs.Leads before ⟨(Path.mk (before ++ [name])).start, []⟩ p) (hp : fs.HasDirectory p) :
    ∃ d, d.At fs p ∧
      fs.lastStep ⟨before ++ [name]⟩ = .ok (if name = "." || name = ".." then none else some (d, name)) := by
  have hstays : p.next "." = p := by simp [Place.next, Path.isIdle]
  obtain ⟨d, hwalk, hd⟩ := walk_of (leads_append.mpr ⟨p, hleads, leads_single.mpr ⟨hp, by decide, hstays⟩⟩)
  refine ⟨d, hd, ?_⟩
  unfold lastStep
  simp [hcheck, Path.trimmed_eq hname, hwalk, bind, Except.bind, pure, Except.pure]

/-- The path is that of an entry of a directory, which need not be there, at a place. -/
structure Reaches (fs : Files) (path : Path) (p : Place) : Prop where
  checked : path.check = .ok ()
  entry : ∃ before name directory, path.names = before ++ [name] ∧ Path.isIdle name = false ∧ name ≠ ".." ∧
    name.utf8ByteSize ≤ Path.nameLimit ∧ fs.Leads before ⟨path.start, []⟩ directory ∧ fs.HasDirectory directory ∧
    directory.next name = p

namespace Reaches

theorem mono (h : fs.Reaches path p) (hkeep : ∀ p, fs.HasDirectory p → fs'.HasDirectory p) : fs'.Reaches path p := by
  obtain ⟨hcheck, before, name, directory, hnames, hidle, hup, hsize, hleads, hdirectory, hp⟩ := h
  exact ⟨hcheck, before, name, directory, hnames, hidle, hup, hsize, hleads.mono hkeep, hkeep _ hdirectory, hp⟩

/-- The place is not one where a walk begins, and there is a directory for it. -/
theorem parent (h : fs.Reaches path p) :
    ∃ a name above, p = ⟨a, name :: above⟩ ∧ (fs.find? ⟨a, above⟩).isSome := by
  obtain ⟨-, -, name, directory, -, hidle, hup, -, -, ⟨mode, hmode⟩, rfl⟩ := h
  refine ⟨directory.anchor, name, directory.names, directory.next_of_proper hidle hup, ?_⟩
  obtain ⟨x, hx, -⟩ := Option.map_eq_some_iff.mp hmode
  exact Option.isSome_of_eq_some hx

theorem endsWithSlash (h : fs.Reaches path p) : path.endsWithSlash = false := by
  obtain ⟨-, before, name, -, hnames, hidle, -⟩ := h
  simp [Path.endsWithSlash, hnames, ne_empty_of_not_idle hidle]

theorem walk (h : fs.Reaches path p) : ∃ s, fs.walk path.names path.start = .ok s ∧ s.At fs p := by
  obtain ⟨-, before, name, directory, hnames, -, -, hsize, hleads, hdirectory, hp⟩ := h
  rw [hnames]
  exact walk_of (leads_append.mpr ⟨directory, hleads, hdirectory, hsize, hp⟩)

/-- The last step to it is that of its name in its directory. -/
theorem lastStep (h : fs.Reaches path p) :
    ∃ d name s, fs.lastStep path = .ok (some (d, name)) ∧ fs.enter d name = .ok s ∧ s.At fs p := by
  obtain ⟨names⟩ := path
  obtain ⟨hcheck, before, name, directory, hnames, hidle, hup, hsize, hleads, hdirectory, rfl⟩ := h
  obtain rfl : names = before ++ [name] := hnames
  have hdot : name ≠ "." := by
    rintro rfl
    cases hidle
  obtain ⟨d, hd, hlast⟩ := lastStep_of_leads (ne_empty_of_not_idle hidle) hcheck hleads hdirectory
  obtain ⟨s, henter, hs⟩ := enter_of hd hdirectory hsize
  exact ⟨d, name, s, by simpa [hdot, hup] using hlast, henter, hs⟩

end Reaches

/-! ### Reading, creating and removing -/

section Operations
variable {text : String}

theorem resolve_of_reaches (h : fs.Reaches (.ofText text) p) : ∃ s, fs.resolve text = .ok s ∧ s.At fs p := by
  obtain ⟨s, hwalk, hs⟩ := h.walk
  refine ⟨s, ?_, hs⟩
  unfold resolve
  simp only [h.checked, bind, Except.bind]
  exact hwalk

theorem look_of_reaches (h : fs.Reaches (.ofText text) p) : fs.look text = fs.node? p := by
  obtain ⟨s, hresolve, hs⟩ := resolve_of_reaches h
  unfold look
  rw [hresolve]
  exact hs.node?

theorem read_of_reaches (h : fs.Reaches (.ofText text) p) {content : Bytes}
    (hfile : fs.node? p = some (.file mode content)) : fs.read text = .ok content := by
  obtain ⟨s, hresolve, hs⟩ := resolve_of_reaches h
  unfold read
  simp only [hresolve, bind, Except.bind, hs.node?, hfile]

theorem create_of_some (h : fs.Reaches (.ofText text) p) (hfound : (fs.find? p).isSome) :
    fs.create text mode = .error .exists := by
  obtain ⟨d, name, s, hlast, henter, hs⟩ := h.lastStep
  unfold create
  simp [hlast, henter, h.endsWithSlash, hs.found, hfound, bind, Except.bind]

theorem create_of_none (h : fs.Reaches (.ofText text) p) (hnone : fs.find? p = none)
    (hpermit : fs.permit .create = .ok ()) (mode : Nat) : fs.create text mode = .ok (p, fs.put p (.file mode [])) := by
  obtain ⟨d, name, s, hlast, henter, hs⟩ := h.lastStep
  unfold create
  simp [hlast, henter, h.endsWithSlash, hs.found, hnone, hpermit, bind, Except.bind, hs.place, pure, Except.pure]

theorem remove_of_reaches (h : fs.Reaches (.ofText text) p) {content : Bytes}
    (hfile : fs.node? p = some (.file mode content)) (hpermit : fs.permit .remove = .ok ()) :
    fs.remove text = .ok (fs.erase p) := by
  obtain ⟨d, name, s, hlast, henter, hs⟩ := h.lastStep
  unfold remove
  simp [hlast, henter, h.endsWithSlash, hs.node?, hfile, hpermit, bind, Except.bind, hs.place, pure, Except.pure]

end Operations

/-! ### What was created -/

theorem lastStep_ok {d : Spot} (h : fs.lastStep path = .ok (some (d, name))) :
    path.check = .ok () ∧ path.trimmed.getLast? = some name ∧ name ≠ "." ∧ name ≠ ".." ∧
      ∃ directory, fs.Leads path.trimmed.dropLast ⟨path.start, []⟩ directory ∧ fs.HasDirectory directory ∧
        d.At fs directory := by
  unfold lastStep at h
  simp only [bind, Except.bind, pure, Except.pure] at h
  split at h
  · cases h
  rename_i hcheck
  split at h
  · cases h
  rename_i last hlast
  split at h
  · cases h
  rename_i d' hwalk
  split at h <;> cases h
  rename_i hdots
  obtain ⟨hdot, hup⟩ : name ≠ "." ∧ name ≠ ".." := by simpa using hdots
  -- The walk ends with a dot, which stays where it is but asks for a directory.
  obtain ⟨q, hleads, hd⟩ := walk_ok hwalk
  obtain ⟨directory, hbefore, hdirectory, -, hq⟩ := leads_append.mp hleads
  have hstays : directory.next "." = q := hq
  rw [show directory.next "." = directory by simp [Place.next, Path.isIdle]] at hstays
  subst hstays
  exact ⟨hcheck, hlast, hdot, hup, directory, hbefore, hdirectory, hd⟩

/-- Unless a path ends with a slash its last name is that of its last step. -/
theorem names_eq_of_getLast {path : Path} (hslash : path.endsWithSlash = false)
    (hlast : path.trimmed.getLast? = some name) : path.names = path.trimmed.dropLast ++ [name] ∧ name ≠ "" := by
  obtain ⟨names⟩ := path
  rcases List.eq_nil_or_concat names with rfl | ⟨before, last, rfl⟩
  · cases hlast
  · have hnonempty : last ≠ "" := by simpa [Path.endsWithSlash] using hslash
    rw [List.concat_eq_append, Path.trimmed_eq hnonempty] at hlast ⊢
    obtain rfl : last = name := by simpa using hlast
    exact ⟨by simp, hnonempty⟩

/-- A file that was created is new, and at the place that the path reaches. -/
theorem create_ok {text : String} (h : fs.create text mode = .ok (p, fs')) :
    fs.Reaches (.ofText text) p ∧ fs.find? p = none ∧ fs.permit .create = .ok () ∧ fs' = fs.put p (.file mode []) := by
  unfold create at h
  simp only [bind, Except.bind, pure, Except.pure] at h
  split at h
  · cases h
  rename_i step hlast
  split at h
  · cases h
  rename_i d name
  split at h
  · cases h
  rename_i hslash
  split at h
  · cases h
  rename_i s henter
  split at h
  · cases h
  rename_i hfound
  split at h <;> cases h
  rename_i hpermit
  obtain ⟨hcheck, hname, hdot, hup, directory, hleads, hdirectory, hd⟩ := lastStep_ok hlast
  obtain ⟨-, hsize, hs⟩ := enter_ok hd henter
  obtain ⟨hnames, hnonempty⟩ := names_eq_of_getLast (by simpa using hslash) hname
  have hnone : fs.find? s.place = none := by
    rw [hs.found] at hfound
    rw [hs.place]
    simpa using hfound
  exact ⟨⟨hcheck, _, name, directory, hnames, by simp [Path.isIdle, hnonempty, hdot], hup, hsize, hleads, hdirectory,
    hs.place.symm⟩, hnone, hpermit, rfl⟩

/-! ### Directories -/

theorem isDirectory_of_leads {names : List String} (hcheck : (Path.mk names).check = .ok ())
    (hleads : fs.Leads names ⟨(Path.mk names).start, []⟩ p) (hp : fs.HasDirectory p) :
    fs.isDirectory ⟨names⟩ = true := by
  obtain ⟨s, hwalk, hs⟩ := walk_of hleads
  obtain ⟨mode, hmode⟩ := hp
  unfold isDirectory
  simp only [hcheck, hwalk, hs.node?, hmode]
  rfl

/-- A directory that is there is not made again. -/
theorem makeDirectory_of_leads (hname : Path.isIdle name = false) (hcheck : (Path.mk (before ++ [name])).check = .ok ())
    (hleads : fs.Leads (before ++ [name]) ⟨(Path.mk (before ++ [name])).start, []⟩ p) (hp : fs.HasDirectory p)
    (mode : Nat) : fs.makeDirectory ⟨before ++ [name]⟩ mode = .error .exists := by
  obtain ⟨directory, hbefore, hdirectory, hsize, rfl⟩ := leads_append.mp hleads
  obtain ⟨d, hd, hlast⟩ := lastStep_of_leads (ne_empty_of_not_idle hname) hcheck hbefore hdirectory
  obtain ⟨s, henter, hs⟩ := enter_of hd hdirectory hsize
  obtain ⟨mode', hmode⟩ := hp
  obtain ⟨x, hx, -⟩ := Option.map_eq_some_iff.mp hmode
  unfold makeDirectory
  simp only [hlast, bind, Except.bind]
  split
  · rfl
  · rename_i heq
    split at heq <;> cases heq
    simp [henter, hs.found, hx]

/-- Where all the directories on the way are there, none is made. -/
theorem makeDirectories_of_leads {whole : List String} (hcheck : (Path.mk whole).check = .ok ()) {start : Anchor}
    (hstart : (Path.mk whole).start = start) (names behind : List String)
    (hwhole : whole = names.reverse ++ behind) (hleads : fs.Leads names.reverse ⟨start, []⟩ p) (hp : fs.HasDirectory p) :
    fs.makeDirectories mode names = (.ok (), fs) := by
  induction names generalizing behind p with
  | nil => rfl
  | cons name names ih =>
    rw [List.reverse_cons] at hwhole hleads
    unfold makeDirectories
    split
    · obtain ⟨r, hbefore, hr, -⟩ := leads_append.mp hleads
      exact ih _ (by rw [hwhole, List.append_assoc]) hbefore hr
    · rename_i hidle
      have hidle : Path.isIdle name = false := by simpa using hidle
      have hname := ne_empty_of_not_idle hidle
      have hcheck' : (Path.mk (names.reverse ++ [name])).check = .ok () := Path.check_before hname (hwhole ▸ hcheck)
      have hstart' : (Path.mk (names.reverse ++ [name])).start = start := by
        rw [Path.start_before hname, ← hwhole, hstart]
      rw [← hstart'] at hleads
      have hmake := makeDirectory_of_leads hidle hcheck' hleads hp mode
      rw [List.reverse_cons]
      simp only [hmake, ensureDirectory, isDirectory_of_leads hcheck' hleads hp, if_true]

theorem makeDirectories_of_reaches (h : fs.Reaches path p) : fs.makeDirectories mode path.namesAbove = (.ok (), fs) := by
  obtain ⟨names⟩ := path
  obtain ⟨hcheck, before, name, directory, hnames, hidle, -, -, hleads, hdirectory, -⟩ := h
  obtain rfl : names = before ++ [name] := hnames
  rw [Path.namesAbove_eq hidle]
  refine makeDirectories_of_leads hcheck rfl before.reverse [name] ?_ ?_ hdirectory
  · rw [List.reverse_reverse]
  · rw [List.reverse_reverse]
    exact hleads

theorem makeDirectory_ok (h : fs.makeDirectory path mode = .ok fs') :
    ∃ q, fs.find? q = none ∧ fs' = fs.put q (.directory mode) := by
  unfold makeDirectory at h
  simp only [bind, Except.bind, pure, Except.pure] at h
  split at h
  · cases h
  rename_i step hlast
  split at h
  · cases h
  split at h
  · cases h
  rename_i s henter
  split at h
  · cases h
  rename_i hfound
  split at h <;> cases h
  obtain ⟨-, -, -, -, directory, -, -, hd⟩ := lastStep_ok hlast
  obtain ⟨-, -, hs⟩ := enter_ok hd henter
  refine ⟨s.place, ?_, rfl⟩
  rw [hs.place, ← hs.found]
  simpa using hfound

/-- Directories are made one after the other, each where nothing was. -/
theorem makeDirectories_rel {R : Files → Files → Prop} (hrefl : ∀ fs, R fs fs)
    (htrans : ∀ {fs fs' fs'' : Files}, R fs fs' → R fs' fs'' → R fs fs'')
    (hput : ∀ (fs : Files) p, fs.find? p = none → R fs (fs.put p (.directory mode))) (fs : Files) (names : List String) :
    R fs (fs.makeDirectories mode names).2 := by
  have hensure : ∀ fs path, R fs (Files.ensureDirectory fs path mode).2 := by
    intro fs path
    unfold Files.ensureDirectory
    split
    · rename_i h
      obtain ⟨q, hnone, rfl⟩ := makeDirectory_ok h
      exact hput _ q hnone
    · exact hrefl fs
  induction names generalizing fs with
  | nil => exact hrefl fs
  | cons name names ih =>
    unfold Files.makeDirectories
    split
    · exact ih fs
    · simp only
      split
      · have hbefore := ih fs
        split <;> rename_i heq <;> rw [heq] at hbefore
        · exact hbefore
        · exact htrans hbefore (hensure _ _)
      · exact hensure fs _

/-! ### What stays -/

/-- Whatever stands somewhere stays, and the system refuses what it refused. -/
structure Grows (fs fs' : Files) : Prop where
  kept : ∀ {p node}, fs.node? p = some node → fs'.node? p = some node
  refusals : fs'.refusals = fs.refusals

namespace Grows

theorem refl (fs : Files) : fs.Grows fs := ⟨id, rfl⟩

theorem trans {fs'' : Files} (h₁ : fs.Grows fs') (h₂ : fs'.Grows fs'') : fs.Grows fs'' :=
  ⟨fun h => h₂.kept (h₁.kept h), h₂.refusals.trans h₁.refusals⟩

/-- To put something where nothing was takes nothing away, nor does it later. -/
theorem put_after (h : fs.Grows fs') (hnone : fs.find? p = none) (node : FileNode) : fs.Grows (fs'.put p node) := by
  refine ⟨fun {q node'} hq => ?_, (set_refusals _ _ _).trans h.refusals⟩
  rw [node?_put_of_ne]
  · exact h.kept hq
  · rintro rfl
    rw [node?, hnone] at hq
    cases hq

theorem put (hnone : fs.find? p = none) (node : FileNode) : fs.Grows (fs.put p node) := (refl fs).put_after hnone node

theorem makeDirectories (fs : Files) (mode : Nat) (names : List String) :
    fs.Grows (fs.makeDirectories mode names).2 :=
  makeDirectories_rel refl trans (fun _ _ hnone => put hnone _) fs names

end Grows
end Files
end FrameSentry
