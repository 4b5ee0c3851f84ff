import FrameSentry.Proofs.Config.Building

/-! The limit on the watched ports is tested twice: on the list of the configuration, and again on the watch list that the
    engine makes of it. The watch list has each port once, but the list of the configuration is counted with its
    repetitions. So whatever the configuration lets through can be watched, but not every list that can be watched is let
    through: one is refused whose ports fit while its entries do not. The checks agree on lists without repetitions. -/

namespace FrameSentry

theorem Except.bind_unit_eq_error {ε : Type} {x y : Except ε Unit} {e : ε} :
    (x >>= fun _ => y) = .error e ↔ x = .error e ∨ x = .ok () ∧ y = .error e := by
  cases x <;> simp [bind, Except.bind]

theorem Error.invalidValue_inj {field reason field' reason' : String} :
    Error.invalidValue field reason = .invalidValue field' reason' ↔ field = field' ∧ reason = reason' := by
  simp [Error.invalidValue]

theorem WatchList.ofPorts_error {ports : List UInt16} (h : ports = [] ∨ 0 ∈ ports) : ∃ e, ofPorts ports = .error e := by
  unfold ofPorts
  split
  · exact ⟨_, rfl⟩
  · rename_i hsome
    rw [if_pos (List.contains_iff_mem.mpr (h.resolve_left (by simpa using hsome)))]
    exact ⟨_, rfl⟩

namespace Config
variable {c : Config} {ports : List UInt16} {limit : Nat} {e : Error}

theorem require_eq_error {ok : Bool} {field reason : String} :
    require ok field reason = .error e ↔ ok = false ∧ e = .invalidValue field reason := by
  unfold require
  cases ok <;> simp [eq_comm]

/-! ### The check of the configuration -/

/-- What can be no watch list is refused for the same reason. -/
theorem validatePorts_of_ofPorts (h : WatchList.ofPorts ports = .error e) : validatePorts ports limit = .error e := by
  unfold WatchList.ofPorts at h
  unfold validatePorts require
  split at h
  · rename_i hnone
    simpa [hnone, bind, Except.bind] using h
  · rename_i hsome
    split at h
    · rename_i hzero
      simpa [hsome, List.contains_iff_mem.mp hzero, bind, Except.bind] using h
    · cases h

theorem validatePorts_error (h : validatePorts ports limit = .error e) :
    ∃ reason, e = .invalidValue "filter.ports" reason := by
  unfold validatePorts at h
  simp only [Except.bind_unit_eq_error, require_eq_error] at h
  rcases h with ⟨-, rfl⟩ | ⟨-, ⟨-, rfl⟩ | ⟨-, -, rfl⟩⟩ <;> exact ⟨_, rfl⟩

/-- The configuration with other ports. -/
def withPorts (c : Config) (ports : List UInt16) : Config := { c with filter := { c.filter with ports } }

/-- Where nothing but the ports can be wrong, they alone decide. -/
theorem validate_of_withPorts (h : (c.withPorts ports).validate = .ok ()) :
    c.validate = validatePorts c.filter.ports c.engine.watchListLimit := by
  obtain ⟨hlevel, hformat, hengine, hlimit, hinterval, -, hring, hcapture⟩ := validate_eq_ok.mp h
  simp only [withPorts] at hlevel hformat hengine hlimit hinterval hring hcapture
  cases hports : validatePorts c.filter.ports c.engine.watchListLimit with
  | ok _ =>
    exact validate_eq_ok.mpr
      ⟨hlevel, hformat, hengine, hlimit, hinterval, validatePorts_eq_ok.mp hports, hring, hcapture⟩
  | error e =>
    unfold validate
    split
    · rename_i henabled
      simp [Except.bind_unit_eq_error, require_eq_ok, hlevel, hformat, validateEnabled_eq_ok.mpr (hengine henabled),
        hlimit, hinterval, hports]
    · simp [Except.bind_unit_eq_error, require_eq_ok, hlevel, hformat, hlimit, hinterval, hports]

/-- No other check refuses the ports. -/
theorem validatePorts_of_validate {reason : String} (h : c.validate = .error (.invalidValue "filter.ports" reason)) :
    validatePorts c.filter.ports c.engine.watchListLimit = .error (.invalidValue "filter.ports" reason) := by
  have henabled : validateEnabled c.engine ≠ .error (.invalidValue "filter.ports" reason) := by
    intro h
    unfold validateEnabled at h
    simp [Except.bind_unit_eq_error, require_eq_error, Error.invalidValue_inj] at h
  unfold validate at h
  split at h <;> simp only [Except.bind_unit_eq_error, require_eq_error, Error.invalidValue_inj, henabled,
    String.reduceEq, false_and, and_false, false_or, or_false] at h
  · exact h.2.2.2.2.2
  · exact h.2.2.2.2

end Config

/-! ### The check of the watch list -/

namespace EngineSettings
variable {s : EngineSettings} {c : Config} {ports : List UInt16}

theorem ports_ofConfig (c : Config) : (ofConfig c).ports = c.filter.ports := List.append_nil _

theorem watchList_of_ofPorts {e : Error} (h : WatchList.ofPorts s.ports = .error e) : s.watchList = .error e := by
  unfold watchList
  rw [h]
  rfl

theorem watchList_eq_ok : (∃ w, s.watchList = .ok w) ↔
    s.ports ≠ [] ∧ 0 ∉ s.ports ∧ s.ports.toFinset.card ≤ s.base.watchListLimit := by
  have herror := watchList_error_iff (s := s)
  rw [List.toFinset_eq_empty_iff, List.mem_toFinset] at herror
  cases hs : s.watchList with
  | ok w =>
    simp only [hs, reduceCtorEq, exists_false, false_iff, not_or, Nat.not_lt] at herror
    exact ⟨fun _ => herror, fun _ => ⟨w, rfl⟩⟩
  | error e =>
    simp only [hs, Except.error.injEq, exists_eq', true_iff] at herror
    constructor
    · rintro ⟨w, h⟩
      cases h
    · rintro ⟨hsome, hzero, hfew⟩
      rcases herror with h | h | h
      · exact absurd h hsome
      · exact absurd h hzero
      · exact absurd hfew (Nat.not_le.mpr h)

theorem watchList_error {e : Error} (h : s.watchList = .error e) :
    ∃ reason, e = .invalidValue "filter.ports" reason := by
  rw [watchList_eq] at h
  split at h
  · cases h
    exact ⟨_, rfl⟩
  split at h
  · cases h
    exact ⟨_, rfl⟩
  split at h <;> cases h
  exact ⟨_, rfl⟩

/-- The two checks of the ports, of a configuration without rules. A list can be watched if it is not empty, port 0 is not
    in it, and it has no more different ports than are allowed. The check of the configuration asks beyond this that it
    has no more entries than that. So it lets through nothing that is refused later, and the two agree unless the entries
    are too many and the different ports are not; on the list with each port once, which is watched as the same, they
    agree always. Where the list is empty or has port 0 in it the errors are the same, and all errors name the same
    field. If nothing but the ports can be wrong with a configuration, this check decides whether it is let through; and
    no other check of it names the ports. -/
theorem port_checks_compared (c : Config) :
    let ports := c.filter.ports
    let limit := c.engine.watchListLimit
    let checked := Config.validatePorts ports limit
    let listed := (ofConfig c).watchList
    let fits := ports ≠ [] ∧ 0 ∉ ports ∧ ports.toFinset.card ≤ limit
    ((∃ w, listed = .ok w) ↔ fits) ∧
      (checked = .ok () ↔ fits ∧ ports.length ≤ limit) ∧
      ((checked = .ok () ↔ ∃ w, listed = .ok w) ↔ ¬ (fits ∧ limit < ports.length)) ∧
      (∀ ports' : List UInt16, ports'.Nodup → ports'.toFinset = ports.toFinset →
        (ofConfig (c.withPorts ports')).watchList = listed ∧
          (Config.validatePorts ports' limit = .ok () ↔ ∃ w, listed = .ok w)) ∧
      (ports = [] ∨ 0 ∈ ports → ∃ e, checked = .error e ∧ listed = .error e) ∧
      (∀ e, checked = .error e ∨ listed = .error e → ∃ reason, e = .invalidValue "filter.ports" reason) ∧
      (∀ ports', (c.withPorts ports').validate = .ok () → c.validate = checked) ∧
      ∀ reason, c.validate = .error (.invalidValue "filter.ports" reason) →
        checked = .error (.invalidValue "filter.ports" reason) := by
  intro ports limit checked listed fits
  have hlisted : (∃ w, listed = .ok w) ↔ fits := by
    have h := watchList_eq_ok (s := ofConfig c)
    rwa [ports_ofConfig] at h
  have hcard : ports.toFinset.card ≤ ports.length := List.toFinset_card_le ports
  have hchecked : checked = .ok () ↔ fits ∧ ports.length ≤ limit := by
    rw [show checked = .ok () ↔ _ from Config.validatePorts_eq_ok]
    constructor
    · rintro ⟨hsome, hzero, hfew⟩
      exact ⟨⟨hsome, hzero, hcard.trans hfew⟩, hfew⟩
    · rintro ⟨⟨hsome, hzero, -⟩, hfew⟩
      exact ⟨hsome, hzero, hfew⟩
  refine ⟨hlisted, hchecked, ?_, fun ports' hnodup hsame => ?_, fun hwrong => ?_, ?_, fun ports' => ?_, fun reason => ?_⟩
  · rw [hchecked, hlisted, and_iff_left_iff_imp, not_and, Nat.not_lt]
  · have hports : (ofConfig (c.withPorts ports')).ports.toFinset = (ofConfig c).ports.toFinset := by
      rw [ports_ofConfig, ports_ofConfig]
      exact hsame
    have hwatch : (ofConfig (c.withPorts ports')).watchList = listed := watchList_congr rfl hports
    refine ⟨hwatch, ?_⟩
    rw [← hwatch, watchList_eq_ok, ports_ofConfig, Config.validatePorts_eq_ok]
    show _ ↔ ports' ≠ [] ∧ 0 ∉ ports' ∧ ports'.toFinset.card ≤ limit
    rw [List.toFinset_card_of_nodup hnodup]
  · obtain ⟨e, he⟩ := WatchList.ofPorts_error hwrong
    exact ⟨e, Config.validatePorts_of_ofPorts he, watchList_of_ofPorts ((ports_ofConfig c).symm ▸ he)⟩
  · rintro e (h | h)
    · exact Config.validatePorts_error h
    · exact watchList_error h
  · exact Config.validate_of_withPorts
  · exact Config.validatePorts_of_validate

/-- A port that is configured twice is one entry too many for a list of one, though it is the only one watched. With the
    same list where two are allowed, or with the port once, the configuration is let through. -/
theorem repeated_port_refused :
    let c (limit : Nat) (ports : List UInt16) : Config :=
      { engine := { watchListLimit := limit }, filter := { ports } }
    (c 1 [8000, 8000]).validate =
        .error (.invalidValue "filter.ports" "2 ports exceed engine.watch_list_max_entries (1)") ∧
      (ofConfig (c 1 [8000, 8000])).watchList = .ok ⟨[8000]⟩ ∧
      (c 2 [8000, 8000]).validate = .ok () ∧ (c 1 [8000]).validate = .ok () := by
  intro c
  have hlist : WatchList.ascending [8000, 8000] = [8000] := by
    simp [WatchList.ascending, WatchList.squeeze, List.mergeSort, List.MergeSort.Internal.splitInTwo]
  have hfits : ∃ w, (ofConfig (c 1 [8000, 8000])).watchList = .ok w := watchList_eq_ok.mpr (by decide)
  obtain ⟨w, hw⟩ := hfits
  have hports : w = ⟨[8000]⟩ := (watchList_ok hw).trans (congrArg WatchList.mk hlist)
  exact ⟨by decide, hports ▸ hw, by decide, by decide⟩

end EngineSettings
end FrameSentry
