import Mathlib.Algebra.Ring.Nat
import FrameSentry.Config.Load
import FrameSentry.Engine.Machine
import FrameSentry.Proofs.Config.RingSize
import FrameSentry.Proofs.Config.WatchedPorts

/-! A configuration that is valid does not fail later for what it says. What the checks of a configuration and of a
    rules file let through is enough for the engine to be built and for the sizes of its kernel maps, but for one
    thing: the ports of the configuration and those of the rules are counted together only when the engine is built. -/

namespace FrameSentry

/-! ### What is valid -/

theorem Except.bind_unit_eq_ok {ε : Type} {x y : Except ε Unit} :
    (x >>= fun _ => y) = .ok () ↔ x = .ok () ∧ y = .ok () := by
  cases x with
  | error e => exact ⟨nofun, nofun⟩
  | ok _ => exact ⟨fun h => ⟨rfl, h⟩, fun h => h.2⟩

namespace Config

/-- What every configuration that is let through satisfies. -/
structure Valid (c : Config) : Prop where
  logLevel : c.general.logLevel ∈ logLevels
  logFormat : c.general.logFormat ∈ logFormats
  engine : c.engine.enabled = true →
    c.engine.mode ∈ modes ∧ c.engine.interface ≠ "" ∧ c.engine.programPath ≠ ""
  watchListLimit : 1 ≤ c.engine.watchListLimit ∧ c.engine.watchListLimit ≤ watchListBound
  statsInterval : 1 ≤ c.engine.statsInterval
  ports : c.filter.ports ≠ [] ∧ 0 ∉ c.filter.ports ∧ c.filter.ports.length ≤ c.engine.watchListLimit
  ringBufferSize : 1 ≤ c.capture.ringBufferSize ∧ c.capture.ringBufferSize ≤ ringBufferBound
  maxCapture : 1 ≤ c.capture.maxCapture ∧ c.capture.maxCapture ≤ maxCaptureBound

theorem require_eq_ok {ok : Bool} {field reason : String} : require ok field reason = .ok () ↔ ok = true := by
  unfold require
  split <;> simp_all

theorem validatePorts_eq_ok {ports : List UInt16} {limit : Nat} :
    validatePorts ports limit = .ok () ↔ ports ≠ [] ∧ 0 ∉ ports ∧ ports.length ≤ limit := by
  unfold validatePorts
  simp only [Except.bind_unit_eq_ok, require_eq_ok]
  simp

theorem validateEnabled_eq_ok {e : EngineSection} :
    validateEnabled e = .ok () ↔ e.mode ∈ modes ∧ e.interface ≠ "" ∧ e.programPath ≠ "" := by
  unfold validateEnabled
  simp only [Except.bind_unit_eq_ok, require_eq_ok]
  simp

/-- The checks let through what is valid, and nothing else. -/
theorem validate_eq_ok {c : Config} : c.validate = .ok () ↔ c.Valid := by
  have hengine : ∀ rest : Except Error Unit,
      (if c.engine.enabled = true then validateEnabled c.engine >>= fun _ => rest else rest) = .ok () ↔
        (c.engine.enabled = true → c.engine.mode ∈ modes ∧ c.engine.interface ≠ "" ∧ c.engine.programPath ≠ "") ∧
          rest = .ok () := by
    intro rest
    split
    · rename_i henabled
      rw [Except.bind_unit_eq_ok, validateEnabled_eq_ok]
      simp [henabled]
    · rename_i hdisabled
      simp [hdisabled]
  unfold validate
  simp only [Except.bind_unit_eq_ok, hengine, require_eq_ok, validatePorts_eq_ok, List.contains_iff_mem,
    Bool.and_eq_true, decide_eq_true_eq]
  constructor
  · rintro ⟨hlevel, hformat, henabled, hlimit, hinterval, hports, hring, hcapture⟩
    exact ⟨hlevel, hformat, henabled, hlimit, hinterval, hports, hring, hcapture⟩
  · rintro ⟨hlevel, hformat, henabled, hlimit, hinterval, hports, hring, hcapture⟩
    exact ⟨hlevel, hformat, henabled, hlimit, hinterval, hports, hring, hcapture⟩

end Config

namespace PortRule
variable {rules : List PortRule}

/-- What every rule that is let through satisfies. -/
structure Valid (rule : PortRule) : Prop where
  id : rule.id ≠ ""
  ports : rule.ports ≠ []
  zero : 0 ∉ rule.ports

theorem check_eq_ok {rule : PortRule} : rule.check = .ok () ↔ rule.Valid := by
  unfold check
  constructor
  · intro h
    split at h
    · cases h
    rename_i hid
    split at h
    · cases h
    rename_i hports
    simp only [Bool.or_eq_true, not_or, List.isEmpty_iff, List.contains_iff_mem] at hports
    exact ⟨hid, hports.1, hports.2⟩
  · rintro ⟨hid, hports, hzero⟩
    rw [if_neg hid, if_neg (by simp [hports, hzero])]

theorem valid_of_forM (h : rules.forM check = .ok ()) : ∀ rule ∈ rules, rule.Valid := by
  induction rules with
  | nil => exact nofun
  | cons rule rest ih =>
    obtain ⟨hrule, hrest⟩ := Except.bind_unit_eq_ok.mp h
    exact List.forall_mem_cons.mpr ⟨check_eq_ok.mp hrule, ih hrest⟩

theorem valid_of_parseList {path text : String} (h : parseList path text = .ok rules) : ∀ rule ∈ rules, rule.Valid := by
  unfold parseList at h
  split at h
  · simp only [bind, Except.bind] at h
    split at h <;> cases h
    exact valid_of_forM (by assumption)
  · cases h

/-- A file that is missing gives no rule, and of any other every rule is checked. -/
theorem valid_of_load {fs : Files} {path : String} {t : Telemetry} (h : (load fs path t).1 = .ok rules) :
    ∀ rule ∈ rules, rule.Valid := by
  unfold load at h
  split at h
  · exact valid_of_parseList h
  · cases h
    exact nofun
  · cases h

end PortRule

/-! ### The settings that come of it -/

namespace EngineSettings
variable {s : EngineSettings}

/-- Rules are only added. -/
theorem addRules_eq (s : EngineSettings) (rules : List PortRule) :
    rules.foldl addRule s = { s with rules := (rules.foldl addRule s).rules } := by
  induction rules generalizing s with
  | nil => rfl
  | cons rule rest ih => exact ih (s.addRule rule)

theorem mem_addRules {rules : List PortRule} {rule : PortRule} (h : rule ∈ (rules.foldl addRule s).rules) :
    rule ∈ s.rules ∨ rule ∈ rules := by
  induction rules generalizing s with
  | nil => exact Or.inl h
  | cons r rest ih =>
    rcases ih h with h | h
    · rcases List.mem_append.mp h with h | h
      · exact Or.inl (List.mem_filter.mp h).1
      · exact Or.inr (List.mem_singleton.mp h ▸ List.mem_cons_self)
    · exact Or.inr (List.mem_cons_of_mem _ h)

/-- What the engine needs of its settings. -/
structure Sound (s : EngineSettings) : Prop where
  mode : s.base.mode ∈ Config.modes
  watchListLimit : 1 ≤ s.base.watchListLimit ∧ s.base.watchListLimit ≤ Config.watchListBound
  watched : s.ports ≠ []
  zero : 0 ∉ s.ports
  ringBufferSize : 1 ≤ s.capture.ringBufferSize ∧ s.capture.ringBufferSize ≤ Config.ringBufferBound

/-- A valid configuration of an engine that is enabled needs no more than valid rules. -/
theorem sound_of_valid {c : Config} (hc : c.Valid) (henabled : c.engine.enabled = true) {rules : List PortRule}
    (hrules : ∀ rule ∈ rules, rule.Valid) : (rules.foldl addRule (.ofConfig c)).Sound := by
  have hadded := addRules_eq (.ofConfig c) rules
  have hports : (rules.foldl addRule (.ofConfig c)).ports =
      c.filter.ports ++ (rules.foldl addRule (.ofConfig c)).rules.flatMap (·.ports) := by
    rw [hadded]
    rfl
  obtain ⟨hwatched, hzero, -⟩ := hc.ports
  refine ⟨?_, ?_, ?_, ?_, ?_⟩
  · rw [hadded]
    exact (hc.engine henabled).1
  · rw [hadded]
    exact hc.watchListLimit
  · rw [hports]
    exact fun hnil => hwatched (List.append_eq_nil_iff.mp hnil).1
  · rw [hports, List.mem_append, List.mem_flatMap]
    rintro (h | ⟨rule, hrule, h⟩)
    · exact hzero h
    · rcases mem_addRules hrule with hrule | hrule
      · cases hrule
      · exact (hrules rule hrule).zero h
  · rw [hadded]
    exact hc.ringBufferSize

namespace Sound

theorem mode_eq_ok (hs : s.Sound) : ∃ mode, s.mode = .ok mode := by
  have hmode := hs.mode
  simp only [Config.modes, List.mem_cons, List.not_mem_nil, or_false] at hmode
  unfold EngineSettings.mode
  rcases hmode with h | h <;> rw [h]
  · exact ⟨.capture, rfl⟩
  · exact ⟨.enforce, rfl⟩

/-- The ports are refused only if there are too many of them. -/
theorem watchList_eq (hs : s.Sound) : s.watchList =
    if s.base.watchListLimit < s.ports.toFinset.card then
      .error (.invalidValue "filter.ports"
        s!"{s.ports.toFinset.card} watched ports exceed watch_list_max_entries ({s.base.watchListLimit})")
    else .ok ⟨WatchList.ascending s.ports⟩ := by
  have hwatched : s.ports.toFinset ≠ ∅ := fun h => hs.watched ((List.toFinset_eq_empty_iff _).mp h)
  have hzero : 0 ∉ s.ports.toFinset := fun h => hs.zero (List.mem_toFinset.mp h)
  rw [EngineSettings.watchList_eq, if_neg hwatched, if_neg hzero]

theorem watchMapSize_eq (hs : s.Sound) : s.watchMapSize = .ok s.base.watchListLimit := by
  obtain ⟨hpositive, hbound⟩ := hs.watchListLimit
  have hlimit : s.base.watchListLimit < mapSizeLimit := Nat.lt_of_le_of_lt hbound (by decide)
  unfold watchMapSize
  rw [if_pos (by simpa using ⟨hpositive, hlimit⟩)]

end Sound

/-! ### The ring of the kernel -/

/-- Whatever the size of a page is, the ring has room for what is configured and is made of whole pages. -/
theorem Sound.ringSize_eq_ok (hs : s.Sound) {j : Nat} (hj : j ≤ 30) :
    ∃ ring, s.ringSize (2 ^ j) = .ok ring ∧ 2 ^ j ∣ ring ∧ s.capture.ringBufferSize ≤ ring := by
  have hpage : 1 ≤ 2 ^ j ∧ 2 ^ j ≤ 2 ^ 30 := ⟨Nat.one_le_two_pow, Nat.pow_le_pow_right (by decide) hj⟩
  have hring := hs.ringBufferSize.2
  rw [Config.ringBufferBound, Nat.one_shiftLeft] at hring
  have hneed : s.needed (2 ^ j) ≤ 2 ^ 30 := max_le (max_le hring (max_le hpage.2 (by decide))) (by decide)
  refine ⟨_, (s.ringSize_eq _).trans (if_pos (hneed.trans (by decide))), dvd_pow_clog (s.page_le_needed _), ?_⟩
  exact le_trans (le_trans (le_max_left _ _) (le_max_left _ _)) (Nat.le_pow_clog Nat.one_lt_two _)

end EngineSettings

/-! ### Building the engine -/

/-- An engine is built of sound settings unless there are too many ports. -/
theorem Engine.build_of_sound {s : EngineSettings} (hs : s.Sound) {capacity : Option Nat} (hcapacity : capacity ≠ some 0)
    (sink : Sink) :
    (s.ports.toFinset.card ≤ s.base.watchListLimit ∧ ∃ e, build (some s) capacity sink = .ok e ∧
        e.watch = ⟨WatchList.ascending s.ports⟩) ∨
      (s.base.watchListLimit < s.ports.toFinset.card ∧ ∃ reason,
        build (some s) capacity sink = .error (.invalidValue "filter.ports" reason)) := by
  obtain ⟨mode, hmode⟩ := hs.mode_eq_ok
  have hwatch := hs.watchList_eq
  have hroom : capacity.getD s.capture.ringBufferSize ≠ 0 := by
    cases capacity with
    | none => exact Nat.ne_of_gt hs.ringBufferSize.1
    | some n => exact fun h => hcapacity (congrArg some h)
  unfold build
  simp only [hmode, bind, Except.bind]
  rcases Nat.lt_or_ge s.base.watchListLimit s.ports.toFinset.card with hmany | hfew
  · rw [if_pos hmany] at hwatch
    simp only [hwatch]
    exact Or.inr ⟨hmany, _, rfl⟩
  · rw [if_neg (Nat.not_lt.mpr hfew)] at hwatch
    simp only [hwatch, if_neg hroom]
    exact Or.inl ⟨hfew, _, rfl, rfl⟩

/-- What valid configurations and rules come to. The engine is built just if no more different ports are watched than
    the configuration allows, which holds without rules; if it is not built, it is for the ports. And what is built can
    be started, as far as the settings go: whatever power of two a page has, both sizes of kernel maps are given, the map
    of ports has room for every port, and the ring consists of whole pages and has room for a whole record. -/
theorem valid_config_builds {c : Config} (hvalid : c.validate = .ok ()) (henabled : c.engine.enabled = true)
    {fs : Files} {path : String} {t : Telemetry} {rules : List PortRule}
    (hrules : (PortRule.load fs path t).1 = .ok rules) {capacity : Option Nat} (hcapacity : capacity ≠ some 0)
    (sink : Sink) :
    let s := rules.foldl EngineSettings.addRule (.ofConfig c)
    let built := Engine.build (some s) capacity sink
    ((∃ e, built = .ok e) ↔ s.ports.toFinset.card ≤ c.engine.watchListLimit) ∧
      (∀ err, built = .error err → ∃ reason, err = .invalidValue "filter.ports" reason) ∧
      (rules = [] → ∃ e, built = .ok e) ∧
      ∀ e, built = .ok e → ∀ j ≤ 30, ∃ entries ring, s.watchMapSize = .ok entries ∧ s.ringSize (2 ^ j) = .ok ring ∧
        e.watch.size ≤ entries ∧ 2 ^ j ∣ ring ∧ Ring.cost Record.size = 65552 ∧ 65552 < ring ∧
          (Ring.create ring).fits Record.size = true := by
  intro s built
  have hc := Config.validate_eq_ok.mp hvalid
  have hs : s.Sound := EngineSettings.sound_of_valid hc henabled (PortRule.valid_of_load hrules)
  have hlimit : s.base.watchListLimit = c.engine.watchListLimit := by
    show (rules.foldl EngineSettings.addRule (.ofConfig c)).base.watchListLimit = _
    rw [EngineSettings.addRules_eq]
    rfl
  have hbuild := Engine.build_of_sound hs hcapacity sink
  rw [hlimit] at hbuild
  rcases hbuild with ⟨hfew, e, he, hwatch⟩ | ⟨hmany, reason, herror⟩
  · refine ⟨⟨fun _ => hfew, fun _ => ⟨e, he⟩⟩, fun err herr => ?_, fun _ => ⟨e, he⟩, fun e' he' j hj => ?_⟩
    · cases he.symm.trans herr
    · cases he.symm.trans he'
      obtain ⟨ring, hring, hpages, -⟩ := hs.ringSize_eq_ok hj
      have hroom : Ring.cost Record.size < ring := EngineSettings.ringSize_room hring
      refine ⟨_, ring, hs.watchMapSize_eq, hring, ?_, hpages, by decide, hroom, ?_⟩
      · rw [hlimit, hwatch]
        exact le_of_eq_of_le (WatchList.length_ascending s.ports) hfew
      · unfold Ring.fits Ring.create
        simpa using hroom
  · have hnone : ∀ e, built ≠ .ok e := fun e he => by cases he.symm.trans herror
    refine ⟨⟨fun ⟨e, he⟩ => absurd he (hnone e), fun hfew => absurd hmany (Nat.not_lt.mpr hfew)⟩, fun err herr => ?_, ?_,
      fun e he => absurd he (hnone e)⟩
    · cases herr.symm.trans herror
      exact ⟨reason, rfl⟩
    · -- Without rules the ports are those of the configuration, which are not too many even if none is repeated.
      rintro rfl
      have hports : s.ports = c.filter.ports := List.append_nil _
      have hfew : s.ports.toFinset.card ≤ c.engine.watchListLimit := by
        rw [hports]
        exact le_trans (List.toFinset_card_le _) hc.ports.2.2
      exact absurd hmany (Nat.not_lt.mpr hfew)

/-- A port that is configured twice, and a rules file that names a rule twice: three different ports are watched. They
    are refused where two are allowed, though the configuration itself has no more than two. -/
theorem valid_config_builds_rules :
    let c (limit : Nat) : Config :=
      { engine := { enabled := true, watchListLimit := limit }, filter := ⟨[8000, 8000], "/rules.toml"⟩ }
    let text := "[[rules]]\nid = \"web\"\nports = [443]\n\n[[rules]]\nid = \"dns\"\nports = [53, 8000]\n\n" ++
      "[[rules]]\nid = \"web\"\nports = [80]\n"
    let fs := Files.plant .empty "/rules.toml" (.file 0o644 text.toUTF8.toList)
    let rules : List PortRule := [⟨"web", [443], ""⟩, ⟨"dns", [53, 8000], ""⟩, ⟨"web", [80], ""⟩]
    let s (limit : Nat) := rules.foldl EngineSettings.addRule (.ofConfig (c limit))
    (PortRule.load fs "/rules.toml" .empty).1 = .ok rules ∧ (s 3).ports = [8000, 8000, 53, 8000, 80] ∧
      (∃ e, Engine.build (some (s 3)) none .telling = .ok e ∧ ∃ ring, (s 3).ringSize (2 ^ 16) = .ok ring ∧
        e.watch.size ≤ 3 ∧ 65552 < ring) ∧
      ∃ reason, Engine.build (some (s 2)) none .telling = .error (.invalidValue "filter.ports" reason) := by
  intro c text fs rules s
  have hload : (PortRule.load fs "/rules.toml" .empty).1 = .ok rules := by decide +kernel
  have hcapacity : (none : Option Nat) ≠ some 0 := nofun
  obtain ⟨hbuilt, -, -, hsizes⟩ :=
    valid_config_builds (c := c 3) (by decide) rfl hload hcapacity .telling
  obtain ⟨e, he⟩ := hbuilt.mpr (by decide)
  obtain ⟨entries, ring, hentries, hring, hwatch, -, -, hroom, -⟩ := hsizes e he 16 (by decide)
  cases hentries.symm.trans (show (s 3).watchMapSize = .ok 3 by decide)
  obtain ⟨hrefused, herror, -, -⟩ :=
    valid_config_builds (c := c 2) (by decide) rfl hload hcapacity .telling
  have hmany : ¬∃ e, Engine.build (some (s 2)) none .telling = .ok e := fun h => absurd (hrefused.mp h) (by decide)
  refine ⟨hload, by decide, ⟨e, he, ring, hring, hwatch, hroom⟩, ?_⟩
  cases hbuild : Engine.build (some (s 2)) none .telling with
  | ok e => exact absurd ⟨e, hbuild⟩ hmany
  | error err =>
    obtain ⟨reason, rfl⟩ := herror err hbuild
    exact ⟨reason, rfl⟩

end FrameSentry
