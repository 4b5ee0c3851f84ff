import Mathlib.Data.List.Nodup
import FrameSentry.Config.Overrides

/-! The fields of a configuration, each with its place, the kind of its values, and the variable that stands for it, whose
    name is made of the place. A field can be read and written for itself, and a configuration is what its fields are. The
    variables of the environment are applied field by field: each leaves all other fields alone and looks at none, so in
    the end each field has the value of its own variable, or else the value that it had. -/

namespace FrameSentry
namespace Config

/-- The kinds of values that a field can have. -/
inductive Kind where
  | text
  | flag
  | word
  | port
  | ports
deriving DecidableEq, Repr

namespace Kind

def Value : Kind → Type
  | text => String
  | flag => Bool
  | word => Nat
  | port => UInt16
  | ports => List UInt16

/-- How the text of a variable is read. -/
def read : (k : Kind) → String → Option k.Value
  | text, s => some s
  | flag, s => readFlag s
  | word, s => readWord s
  | port, s => readPortText s.toList
  | ports, s => readPorts s

end Kind

/-- The fields of a configuration. -/
inductive Field where
  | logLevel
  | logFormat
  | pidFile
  | engineEnabled
  | mode
  | interface
  | programPath
  | statsInterval
  | watchListLimit
  | ports
  | rulesPath
  | ringBufferSize
  | maxCapture
  | metricsEnabled
  | listenAddress
  | metricsPort
  | endpoint
deriving DecidableEq, Repr

namespace Field

def all : List Field :=
  [logLevel, logFormat, pidFile, engineEnabled, mode, interface, programPath, statsInterval, watchListLimit, ports,
    rulesPath, ringBufferSize, maxCapture, metricsEnabled, listenAddress, metricsPort, endpoint]

/-- The section that a field is in, and its name there. -/
def place : Field → String × String
  | logLevel => ("general", "log_level")
  | logFormat => ("general", "log_format")
  | pidFile => ("general", "pid_file")
  | engineEnabled => ("engine", "enabled")
  | mode => ("engine", "mode")
  | interface => ("engine", "interface")
  | programPath => ("engine", "program_path")
  | statsInterval => ("engine", "stats_interval_secs")
  | watchListLimit => ("engine", "watch_list_max_entries")
  | ports => ("filter", "ports")
  | rulesPath => ("filter", "rules_path")
  | ringBufferSize => ("capture", "ring_buffer_size")
  | maxCapture => ("capture", "max_capture")
  | metricsEnabled => ("metrics", "enabled")
  | listenAddress => ("metrics", "listen_addr")
  | metricsPort => ("metrics", "port")
  | endpoint => ("metrics", "endpoint")

/-- The variable that stands for a field. -/
def key (f : Field) : String := "PORTWATCH_" ++ f.place.1.toUpper ++ "_" ++ f.place.2.toUpper

def kind : Field → Kind
  | engineEnabled | metricsEnabled => .flag
  | statsInterval | watchListLimit | ringBufferSize | maxCapture => .word
  | ports => .ports
  | metricsPort => .port
  | _ => .text

/-- What the value of a field is called. -/
def kindName (f : Field) : String :=
  match f.kind with
  | .text => "text"
  | .flag => "bool"
  | .word => if f = statsInterval then "u64" else "usize"
  | .port => "u16"
  | .ports => "port list"

def get : (f : Field) → Config → f.kind.Value
  | logLevel, c => c.general.logLevel
  | logFormat, c => c.general.logFormat
  | pidFile, c => c.general.pidFile
  | engineEnabled, c => c.engine.enabled
  | mode, c => c.engine.mode
  | interface, c => c.engine.interface
  | programPath, c => c.engine.programPath
  | statsInterval, c => c.engine.statsInterval
  | watchListLimit, c => c.engine.watchListLimit
  | ports, c => c.filter.ports
  | rulesPath, c => c.filter.rulesPath
  | ringBufferSize, c => c.capture.ringBufferSize
  | maxCapture, c => c.capture.maxCapture
  | metricsEnabled, c => c.metrics.enabled
  | listenAddress, c => c.metrics.listenAddress
  | metricsPort, c => c.metrics.port
  | endpoint, c => c.metrics.endpoint

def put : (f : Field) → f.kind.Value → Config → Config
  | logLevel, v, c => { c with general := { c.general with logLevel := v } }
  | logFormat, v, c => { c with general := { c.general with logFormat := v } }
  | pidFile, v, c => { c with general := { c.general with pidFile := v } }
  | engineEnabled, v, c => { c with engine := { c.engine with enabled := v } }
  | mode, v, c => { c with engine := { c.engine with mode := v } }
  | interface, v, c => { c with engine := { c.engine with interface := v } }
  | programPath, v, c => { c with engine := { c.engine with programPath := v } }
  | statsInterval, v, c => { c with engine := { c.engine with statsInterval := v } }
  | watchListLimit, v, c => { c with engine := { c.engine with watchListLimit := v } }
  | ports, v, c => { c with filter := { c.filter with ports := v } }
  | rulesPath, v, c => { c with filter := { c.filter with rulesPath := v } }
  | ringBufferSize, v, c => { c with capture := { c.capture with ringBufferSize := v } }
  | maxCapture, v, c => { c with capture := { c.capture with maxCapture := v } }
  | metricsEnabled, v, c => { c with metrics := { c.metrics with enabled := v } }
  | listenAddress, v, c => { c with metrics := { c.metrics with listenAddress := v } }
  | metricsPort, v, c => { c with metrics := { c.metrics with port := v } }
  | endpoint, v, c => { c with metrics := { c.metrics with endpoint := v } }

variable {f g : Field} {c c' : Config}

theorem mem_all (f : Field) : f ∈ all := by cases f <;> decide

/-- The variables have the names of the fields' places. -/
theorem keys_eq : overrides.map (·.key) = all.map key := by decide +kernel

/-- No two fields have the same variable. -/
theorem key_injective : Function.Injective key := by
  have hkeys : (all.map key).Nodup := by
    rw [← keys_eq]
    simp [overrides, generalOverrides, engineOverrides, filterOverrides, captureOverrides, metricsOverrides, overrideText,
      overrideWith]
  exact fun f g => List.inj_on_of_nodup_map hkeys f.mem_all g.mem_all

@[simp]
theorem get_put (f : Field) (v : f.kind.Value) (c : Config) : f.get (f.put v c) = v := by cases f <;> rfl

/-- What is written to one field is not seen in another. -/
theorem get_put_of_ne (h : g ≠ f) (v : f.kind.Value) (c : Config) : g.get (f.put v c) = g.get c := by
  cases f <;> cases g <;> first | rfl | exact absurd rfl h

/-- A configuration is what its fields are. -/
theorem ext_get (h : ∀ f : Field, f.get c = f.get c') : c = c' := by
  obtain ⟨⟨_, _, _⟩, ⟨_, _, _, _, _, _⟩, ⟨_, _⟩, ⟨_, _⟩, ⟨_, _, _, _⟩⟩ := c
  obtain ⟨⟨_, _, _⟩, ⟨_, _, _, _, _, _⟩, ⟨_, _⟩, ⟨_, _⟩, ⟨_, _, _, _⟩⟩ := c'
  cases h logLevel; cases h logFormat; cases h pidFile
  cases h engineEnabled; cases h mode; cases h interface
  cases h programPath; cases h statsInterval; cases h watchListLimit
  cases h ports; cases h rulesPath
  cases h ringBufferSize; cases h maxCapture
  cases h metricsEnabled; cases h listenAddress; cases h metricsPort; cases h endpoint
  rfl

/-! ### One variable -/

/-- The variable of a field, as it is applied. -/
def override (f : Field) : Override := ⟨f.key, f.kindName, fun s c => (f.kind.read s).map fun v => f.put v c⟩

/-- The value that the environment has for a field, if it has one. -/
def setting? (f : Field) (e : Environment) : Option f.kind.Value := (e.text? f.key).bind f.kind.read

/-- The configuration with the value that the environment has for a field. -/
def replace (e : Environment) (f : Field) (c : Config) : Config := ((f.setting? e).map fun v => f.put v c).getD c

/-- What is told of a variable: a text that is no value of its field is passed over. -/
def complain (e : Environment) (f : Field) (t : Telemetry) : Telemetry :=
  match e.text? f.key with
  | none => t
  | some text =>
    if (f.kind.read text).isSome then t
    else t.log .configuration .warn s!"failed to parse {f.kindName} from env var, ignoring"
      [("env_key", .text f.key), ("value", .text text)]

theorem applyOverride_override (e : Environment) (f : Field) (c : Config) (t : Telemetry) :
    applyOverride e f.override c t = (f.replace e c, f.complain e t) := by
  unfold applyOverride replace complain setting? override
  simp only
  cases e.text? f.key with
  | none => rfl
  | some text => cases hread : f.kind.read text <;> simp [hread]

theorem get_replace (e : Environment) (f : Field) (c : Config) :
    f.get (f.replace e c) = (f.setting? e).getD (f.get c) := by
  unfold replace
  cases f.setting? e with
  | none => rfl
  | some v => exact f.get_put v c

theorem get_replace_of_ne (h : g ≠ f) (e : Environment) (c : Config) : g.get (f.replace e c) = g.get c := by
  unfold replace
  cases f.setting? e with
  | none => rfl
  | some v => exact get_put_of_ne h v c

/-- The variables of some fields, one after the other: each field of these has its own setting, and the others are as
    they were. -/
theorem get_foldl_replace (e : Environment) (g : Field) (fields : List Field) (c : Config) :
    g.get (fields.foldl (fun c f => f.replace e c) c) =
      if g ∈ fields then (g.setting? e).getD (g.get c) else g.get c := by
  induction fields generalizing c with
  | nil => rfl
  | cons f rest ih =>
    rw [List.foldl_cons, ih]
    by_cases hg : g = f
    · subst hg
      rw [get_replace, if_pos List.mem_cons_self]
      cases g.setting? e <;> simp
    · simp only [get_replace_of_ne hg, List.mem_cons, hg, false_or]

end Field

/-! ### All variables -/

theorem Override.eq_of_map {os os' : List Override} (hkeys : os.map (·.key) = os'.map (·.key))
    (hparts : os.map (fun o => (o.kind, o.put)) = os'.map fun o => (o.kind, o.put)) : os = os' := by
  induction os generalizing os' with
  | nil => exact (List.map_eq_nil_iff.mp hkeys.symm).symm
  | cons o rest ih =>
    obtain ⟨o', rest', rfl, hkey, hrest⟩ := List.map_eq_cons_iff.mp hkeys.symm
    obtain ⟨hpart, hrest₂⟩ := List.cons.inj hparts
    obtain ⟨hkind, hput⟩ := Prod.mk.inj hpart
    rw [ih hrest.symm hrest₂]
    cases o; cases o'
    simp_all

/-- There is one variable for each field. -/
theorem overrides_eq : overrides = Field.all.map Field.override :=
  Override.eq_of_map Field.keys_eq rfl

/-- The configuration and what is told go their ways apart. -/
theorem applyEnvironment_eq (c : Config) (e : Environment) (t : Telemetry) : c.applyEnvironment e t =
    (Field.all.foldl (fun c f => f.replace e c) c, Field.all.foldl (fun t f => f.complain e t) t) := by
  have hfold : ∀ (fields : List Field) (c : Config) (t : Telemetry),
      (fields.map Field.override).foldl (fun s o => applyOverride e o s.1 s.2) (c, t) =
        (fields.foldl (fun c f => f.replace e c) c, fields.foldl (fun t f => f.complain e t) t) := by
    intro fields
    induction fields with
    | nil => exact fun _ _ => rfl
    | cons f rest ih =>
      intro c t
      simp only [List.map_cons, List.foldl_cons, Field.applyOverride_override, ih]
  unfold applyEnvironment
  rw [overrides_eq]
  exact hfold Field.all c t

/-- In the end each field has the value of its own variable, or else the value that it had. -/
theorem get_applyEnvironment (f : Field) (c : Config) (e : Environment) (t : Telemetry) :
    f.get (c.applyEnvironment e t).1 = (f.setting? e).getD (f.get c) := by
  rw [applyEnvironment_eq, Field.get_foldl_replace, if_pos f.mem_all]

end Config
end FrameSentry
