import Mathlib.Algebra.Ring.Nat
import FrameSentry.Proofs.Config.PortList

/-! What the environment makes of a configuration. A variable gives its field a value if it is set to a text that writes
    one: any text writes itself, a flag is written in one way, and numbers and lists of ports are written in decimal. A
    field that is given a value has it in the end, and every other field is as it was; so the variables can be applied again
    with no effect, and none of them has a say in another field than its own. -/

namespace FrameSentry
namespace Config

def WritesFlag (s : String) (b : Bool) : Prop := (s = "true" ∧ b = true) ∨ (s = "false" ∧ b = false)

def WritesWord (s : String) (n : Nat) : Prop := Numeral.Writes s.toList n ∧ n < 2 ^ 64

/-- The text writes a value of this kind. -/
def Kind.Writes : (k : Kind) → String → k.Value → Prop
  | .text, s, v => s = v
  | .flag, s, v => WritesFlag s v
  | .word, s, v => WritesWord s v
  | .port, s, v => Numeral.Writes s.toList (UInt16.toNat v)
  | .ports, s, v => WritesPorts s.toList v

theorem readFlag_eq_some {s : String} {b : Bool} : readFlag s = some b ↔ WritesFlag s b := by
  unfold readFlag WritesFlag
  by_cases htrue : s = "true"
  · simp [htrue, eq_comm]
  · by_cases hfalse : s = "false" <;> simp [htrue, hfalse, eq_comm]

/-- What is read is what the text writes. -/
theorem Kind.read_eq_some {k : Kind} {s : String} {v : k.Value} : k.read s = some v ↔ k.Writes s v := by
  cases k with
  | text => exact Option.some_inj
  | flag => exact readFlag_eq_some
  | word => exact Numeral.decimal?_eq_some
  | port => exact readPortText_eq_some
  | ports => exact readPorts_eq_some

/-- The environment gives a field this value. -/
def Gives (e : Environment) (f : Field) (v : f.kind.Value) : Prop :=
  ∃ text, e.text? f.key = some text ∧ f.kind.Writes text v

variable {e : Environment} {f : Field} {c c' : Config}

theorem setting?_eq_some {v : f.kind.Value} : f.setting? e = some v ↔ Gives e f v := by
  unfold Field.setting? Gives
  simp only [Option.bind_eq_some_iff, Kind.read_eq_some]

theorem setting?_eq_none : f.setting? e = none ↔ ∀ v, ¬ Gives e f v := by
  simp only [Option.eq_none_iff_forall_ne_some, ← setting?_eq_some, ne_eq]

/-- A configuration with the values that the environment gives, and with its own for all other fields. -/
structure Effective (e : Environment) (c c' : Config) : Prop where
  given : ∀ (f : Field) (v : f.kind.Value), Gives e f v → f.get c' = v
  kept : ∀ f : Field, (∀ v, ¬ Gives e f v) → f.get c' = f.get c

/-- There is one such configuration, and it is what the variables make of the first. -/
theorem effective_iff (t : Telemetry) : Effective e c c' ↔ c' = (c.applyEnvironment e t).1 := by
  constructor
  · rintro ⟨hgiven, hkept⟩
    refine Field.ext_get fun f => ?_
    rw [get_applyEnvironment]
    cases hset : f.setting? e with
    | none => exact hkept f (setting?_eq_none.mp hset)
    | some v => exact hgiven f v (setting?_eq_some.mp hset)
  · rintro rfl
    refine ⟨fun f v hgives => ?_, fun f hnone => ?_⟩
    · rw [get_applyEnvironment, setting?_eq_some.mpr hgives, Option.getD_some]
    · rw [get_applyEnvironment, setting?_eq_none.mpr hnone, Option.getD_none]

theorem Effective.again (h : Effective e c c') : Effective e c' c' := ⟨h.given, fun _ _ => rfl⟩

/-- Each variable controls its own field and nothing else. After the variables are applied a field has the value that the
    environment gives it, if it gives one, and is as it was before if not; and there is nothing more to a configuration than
    its fields. To apply the variables once more changes nothing. And environments that differ in one variable make
    configurations that differ at most in the field of this variable, of which there is no more than one; its name says
    where the field is. -/
theorem variable_controls_field (c : Config) (e : Environment) (t : Telemetry) :
    let c' := (c.applyEnvironment e t).1
    (∀ f : Field, (∀ v, Gives e f v → f.get c' = v) ∧ ((∀ v, ¬ Gives e f v) → f.get c' = f.get c)) ∧
      (∀ t', (c'.applyEnvironment e t').1 = c') ∧
      (∀ (e' : Environment) (t' : Telemetry) (key : String), (∀ other ≠ key, e'.text? other = e.text? other) →
        ∀ f : Field, f.key ≠ key → f.get (c.applyEnvironment e' t').1 = f.get c') ∧
      (∀ d : Config, (∀ f : Field, f.get d = f.get c') → d = c') ∧
      (∀ f g : Field, f.key = g.key → f = g) ∧
      ∀ f : Field, f.key = "PORTWATCH_" ++ f.place.1.toUpper ++ "_" ++ f.place.2.toUpper := by
  intro c'
  have heffective : Effective e c c' := (effective_iff t).mpr rfl
  refine ⟨fun f => ⟨heffective.given f, heffective.kept f⟩, fun t' => ?_, fun e' t' key hsame f hf => ?_,
    fun d => Field.ext_get, fun f g h => Field.key_injective h, fun f => rfl⟩
  · exact ((effective_iff t').mp heffective.again).symm
  · rw [get_applyEnvironment, get_applyEnvironment, Field.setting?, Field.setting?, hsame f.key hf]

/-- Of three fields that are not as they are by default one has a variable that writes a number, one has a variable whose
    bytes are no text, and one has none. -/
theorem variable_controls_field_interval :
    let c : Config := { general := { logLevel := "debug" }, engine := { statsInterval := 5 }, metrics := { port := 9000 } }
    let e : Environment := ⟨[("PORTWATCH_GENERAL_LOG_LEVEL", none), ("PORTWATCH_ENGINE_STATS_INTERVAL_SECS", some "+30")]⟩
    (c.applyEnvironment e .empty).1 = { c with engine := { c.engine with statsInterval := 30 } } := by
  intro c e
  obtain ⟨hfields, -, -, hsame, -⟩ := variable_controls_field c e .empty
  refine (hsame _ fun f => ?_).symm
  have hunset : e.text? f.key = none → f.get (c.applyEnvironment e .empty).1 = f.get c := fun hnone =>
    (hfields f).2 fun v ⟨text, htext, _⟩ => by
      rw [hnone] at htext
      cases htext
  cases f with
  | statsInterval =>
    have hgives : Gives e .statsInterval (30 : Nat) :=
      ⟨"+30", by decide +kernel, (Kind.read_eq_some (k := .word)).mp (show readWord "+30" = some 30 by decide +kernel)⟩
    exact ((hfields .statsInterval).1 _ hgives).symm
  | _ => exact (hunset (by decide +kernel)).symm

end Config
end FrameSentry
