import FrameSentry.Config.Load
import FrameSentry.Proofs.Config.Overrides

/-! What comes of a configuration file and the environment together. The environment takes precedence over the file field
    by field, but only over a file that is valid by itself: the file is checked before the variables are applied, and what
    they make of it is checked again. So a file is refused for a value that the environment replaces, and files that differ
    in nothing but such values can have different outcomes. -/

namespace FrameSentry
namespace Config
variable {fs : Files} {path text : String} {c c' c₁ : Config} {e : Environment} {t : Telemetry}

theorem ofFile_of_parse (hread : fs.readText path = .ok text) (hparse : parse text = .ok c) :
    ofFile fs path = c.validate.map fun _ => c := by
  unfold ofFile
  rw [hread]
  simp only [Except.mapError, bind, Except.bind, hparse]
  cases c.validate <;> rfl

/-- Two checks, and then the configuration that the environment makes of the file. What is told meanwhile depends on the
    environment alone. -/
theorem load_of_parse (hread : fs.readText path = .ok text) (hparse : parse text = .ok c) (hc' : Effective e c c') :
    load fs e path t = match c.validate with
      | .error err => (.error err, t)
      | .ok _ => (c'.validate.map fun _ => c', Field.all.foldl (fun t f => f.complain e t) t) := by
  have happly : c.applyEnvironment e t = (c', Field.all.foldl (fun t f => f.complain e t) t) := by
    rw [(effective_iff t).mp hc', applyEnvironment_eq]
  unfold load
  rw [ofFile_of_parse hread hparse]
  cases c.validate with
  | error err => rfl
  | ok _ =>
    simp only [Except.map, happly]
    cases c'.validate <;> rfl

theorem load_eq_ok (hread : fs.readText path = .ok text) (hparse : parse text = .ok c) (hc' : Effective e c c')
    (d : Config) : (load fs e path t).1 = .ok d ↔ c.validate = .ok () ∧ c'.validate = .ok () ∧ d = c' := by
  rw [load_of_parse hread hparse hc']
  cases c.validate <;> cases c'.validate <;> simp [Except.map, eq_comm]

theorem load_eq_error (hread : fs.readText path = .ok text) (hparse : parse text = .ok c) (hc' : Effective e c c')
    (err : Error) : (load fs e path t).1 = .error err ↔
      c.validate = .error err ∨ c.validate = .ok () ∧ c'.validate = .error err := by
  rw [load_of_parse hread hparse hc']
  cases c.validate <;> cases c'.validate <;> simp [Except.map]

/-- Files that differ in nothing but what the environment gives come to the same configuration. -/
theorem Effective.congr (h : Effective e c c') (hsame : ∀ f : Field, f.get c₁ ≠ f.get c → ∃ v, Gives e f v) :
    Effective e c₁ c' := by
  refine ⟨h.given, fun f hnone => ?_⟩
  have hfield : f.get c₁ = f.get c := by
    refine Classical.byContradiction fun hne => ?_
    obtain ⟨v, hv⟩ := hsame f hne
    exact hnone v hv
  rw [hfield]
  exact h.kept f hnone

/-- What a file that is a configuration comes to with an environment. There is one configuration with the values that the
    environment gives and those of the file for all other fields. Just this is loaded, and just if both the configuration
    of the file and this one are valid; else the first of the two that is not says why. So the validity of what is loaded
    decides alone just in case the file is valid by itself, or what it would come to is not. Another file that differs in
    nothing but fields that the environment gives comes to the same configuration, and if the two are alike in their own
    validity, the outcome is the same. -/
theorem load_outcome (hread : fs.readText path = .ok text) (hparse : parse text = .ok c) (e : Environment)
    (t : Telemetry) :
    ∃ c', (∀ d, Effective e c d ↔ d = c') ∧
      (∀ d, (load fs e path t).1 = .ok d ↔ c.validate = .ok () ∧ c'.validate = .ok () ∧ d = c') ∧
      (∀ err, (load fs e path t).1 = .error err ↔
        c.validate = .error err ∨ c.validate = .ok () ∧ c'.validate = .error err) ∧
      ((∀ d, (load fs e path t).1 = .ok d ↔ c'.validate = .ok () ∧ d = c') ↔
        c.validate = .ok () ∨ c'.validate ≠ .ok ()) ∧
      ∀ (fs' : Files) (path' text' : String) (c₁ : Config), fs'.readText path' = .ok text' → parse text' = .ok c₁ →
        (∀ f : Field, f.get c₁ ≠ f.get c → ∃ v, Gives e f v) →
        Effective e c₁ c' ∧ (c₁.validate = c.validate → load fs' e path' t = load fs e path t) := by
  have hc' : Effective e c (c.applyEnvironment e t).1 := (effective_iff t).mpr rfl
  generalize (c.applyEnvironment e t).1 = c' at hc'
  have hok := load_eq_ok (t := t) hread hparse hc'
  refine ⟨c', fun d => ?_, hok, load_eq_error hread hparse hc', ?_, fun fs' path' text' c₁ hread' hparse' hsame => ?_⟩
  · rw [effective_iff t, (effective_iff t).mp hc']
  · simp only [hok]
    constructor
    · intro h
      by_cases hvalid : c'.validate = .ok ()
      · exact Or.inl ((h c').mpr ⟨hvalid, rfl⟩).1
      · exact Or.inr hvalid
    · rintro (hvalid | hinvalid) d
      · simp [hvalid]
      · simp [hinvalid]
  · have hc₁ : Effective e c₁ c' := hc'.congr hsame
    refine ⟨hc₁, fun hvalidate => ?_⟩
    rw [load_of_parse hread' hparse' hc₁, load_of_parse hread hparse hc', hvalidate]

/-- A file with one port and room for two. Three ports of the environment are too many for it, unless the environment
    makes room for three. -/
theorem load_outcome_ports :
    let text := "[engine]\nwatch_list_max_entries = 2\n\n[filter]\nports = [443]\n"
    let fs := Files.plant .empty "portwatch.toml" (.file 0o644 text.toUTF8.toList)
    let ports : String × Option String := ("PORTWATCH_FILTER_PORTS", some "80,22,53")
    let entries : String × Option String := ("PORTWATCH_ENGINE_WATCH_LIST_MAX_ENTRIES", some "+3")
    let c' (limit : Nat) : Config := { engine := { watchListLimit := limit }, filter := { ports := [80, 22, 53] } }
    (load fs ⟨[ports, entries]⟩ "portwatch.toml" .empty).1 = .ok (c' 3) ∧
      (load fs ⟨[ports]⟩ "portwatch.toml" .empty).1 =
        .error (.invalidValue "filter.ports" "3 ports exceed engine.watch_list_max_entries (2)") := by
  intro text fs ports entries c'
  have hread : fs.readText "portwatch.toml" = .ok text := by decide +kernel
  have hparse : parse text = .ok { engine := { watchListLimit := 2 }, filter := { ports := [443] } } := by decide +kernel
  constructor
  · obtain ⟨d, heffective, hok, -⟩ := load_outcome hread hparse ⟨[ports, entries]⟩ .empty
    obtain rfl : c' 3 = d := (heffective _).mp ((effective_iff .empty).mpr (by decide +kernel))
    exact (hok _).mpr ⟨by decide, by decide, rfl⟩
  · obtain ⟨d, heffective, -, herror, -⟩ := load_outcome hread hparse ⟨[ports]⟩ .empty
    obtain rfl : c' 2 = d := (heffective _).mp ((effective_iff .empty).mpr (by decide +kernel))
    exact (herror _).mpr (Or.inr ⟨by decide, by decide⟩)

/-- A file without ports is refused though the environment gives some, with which the configuration is valid; and a file
    that says nothing, and so differs in the ports alone, is loaded. -/
theorem load_refuses_replaced_ports :
    let text := "[filter]\nports = []\n"
    let file (text : String) : Files := Files.plant .empty "portwatch.toml" (.file 0o644 text.toUTF8.toList)
    let e : Environment := ⟨[("PORTWATCH_FILTER_PORTS", some "8000")]⟩
    let c : Config := { filter := { ports := [] } }
    (file text).readText "portwatch.toml" = .ok text ∧ parse text = .ok c ∧ Effective e c {} ∧
      ({} : Config).validate = .ok () ∧
      (load (file text) e "portwatch.toml" .empty).1 =
        .error (.invalidValue "filter.ports" "at least one port must be watched") ∧
      (load (file "") e "portwatch.toml" .empty).1 = .ok {} := by
  intro text file e c
  have hread : (file text).readText "portwatch.toml" = .ok text := by decide +kernel
  have hparse : parse text = .ok c := by decide +kernel
  have hread' : (file "").readText "portwatch.toml" = .ok "" := by decide +kernel
  have hparse' : parse "" = .ok {} := by decide +kernel
  have hc : Effective e c {} := (effective_iff .empty).mpr (by decide +kernel)
  have hdefault : Effective e {} {} := (effective_iff .empty).mpr (by decide +kernel)
  exact ⟨hread, hparse, hc, by decide, (load_eq_error hread hparse hc _).mpr (Or.inl (by decide)),
    (load_eq_ok hread' hparse' hdefault _).mpr ⟨by decide, by decide, rfl⟩⟩

end Config
end FrameSentry
