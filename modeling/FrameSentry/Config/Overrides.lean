import FrameSentry.Config.Basic
import FrameSentry.Telemetry
import FrameSentry.Text.Blank
import FrameSentry.Text.Numeral

/-! Environment variables that take precedence over the configuration file. Each variable stands for one
    field. A variable that is not set, is not text, or does not read as a value of its field changes
    nothing; the last of these is told as a warning. -/

namespace FrameSentry

/-- The environment: the variables that are set, each with its text unless its bytes are no text. -/
structure Environment where
  settings : List (String × Option String)
deriving DecidableEq, Repr

namespace Environment

def empty : Environment := ⟨[]⟩

/-- The text of a variable, if it is set and is text. -/
def text? (e : Environment) (key : String) : Option String := (e.settings.lookup key).join

end Environment

namespace Config

/-- A truth value, as it is written. -/
def readFlag (s : String) : Option Bool :=
  if s = "true" then some true else if s = "false" then some false else none

/-- A word of 64 bits in decimal. -/
def readWord (s : String) : Option Nat := Numeral.decimal? wordLimit s.toList

/-- A port in decimal. -/
def readPortText (s : List Char) : Option UInt16 := (Numeral.decimal? 65536 s).map UInt16.ofNat

/-- Ports with commas between them. White space around a port and empty pieces count for nothing; one piece
    that is no port spoils the list. -/
def readPorts (s : String) : Option (List UInt16) :=
  (((splitAt ',' s.toList).map trim).filter fun piece => !piece.isEmpty).mapM readPortText

/-- One variable: its name, what its value is called, and how its text changes the configuration, if it
    does. -/
structure Override where
  key : String
  kind : String
  put : String → Config → Option Config

/-- A variable whose text is the value. -/
def overrideText (key : String) (put : String → Config → Config) : Override :=
  ⟨key, "text", fun s c => some (put s c)⟩

/-- A variable whose text is read as a value. -/
def overrideWith {α : Type} (key kind : String) (read : String → Option α) (put : α → Config → Config) :
    Override :=
  ⟨key, kind, fun s c => (read s).map fun a => put a c⟩

def generalOverrides : List Override :=
  [overrideText "PORTWATCH_GENERAL_LOG_LEVEL" fun s c => { c with general := { c.general with logLevel := s } },
    overrideText "PORTWATCH_GENERAL_LOG_FORMAT" fun s c => { c with general := { c.general with logFormat := s } },
    overrideText "PORTWATCH_GENERAL_PID_FILE" fun s c => { c with general := { c.general with pidFile := s } }]

def engineOverrides : List Override :=
  [overrideWith "PORTWATCH_ENGINE_ENABLED" "bool" readFlag fun b c =>
      { c with engine := { c.engine with enabled := b } },
    overrideText "PORTWATCH_ENGINE_MODE" fun s c => { c with engine := { c.engine with mode := s } },
    overrideText "PORTWATCH_ENGINE_INTERFACE" fun s c => { c with engine := { c.engine with interface := s } },
    overrideText "PORTWATCH_ENGINE_PROGRAM_PATH" fun s c => { c with engine := { c.engine with programPath := s } },
    overrideWith "PORTWATCH_ENGINE_STATS_INTERVAL_SECS" "u64" readWord fun n c =>
      { c with engine := { c.engine with statsInterval := n } },
    overrideWith "PORTWATCH_ENGINE_WATCH_LIST_MAX_ENTRIES" "usize" readWord fun n c =>
      { c with engine := { c.engine with watchListLimit := n } }]

def filterOverrides : List Override :=
  [overrideWith "PORTWATCH_FILTER_PORTS" "port list" readPorts fun ports c =>
      { c with filter := { c.filter with ports } },
    overrideText "PORTWATCH_FILTER_RULES_PATH" fun s c => { c with filter := { c.filter with rulesPath := s } }]

def captureOverrides : List Override :=
  [overrideWith "PORTWATCH_CAPTURE_RING_BUFFER_SIZE" "usize" readWord fun n c =>
      { c with capture := { c.capture with ringBufferSize := n } },
    overrideWith "PORTWATCH_CAPTURE_MAX_CAPTURE" "usize" readWord fun n c =>
      { c with capture := { c.capture with maxCapture := n } }]

def metricsOverrides : List Override :=
  [overrideWith "PORTWATCH_METRICS_ENABLED" "bool" readFlag fun b c =>
      { c with metrics := { c.metrics with enabled := b } },
    overrideText "PORTWATCH_METRICS_LISTEN_ADDR" fun s c =>
      { c with metrics := { c.metrics with listenAddress := s } },
    overrideWith "PORTWATCH_METRICS_PORT" "u16" (fun s => readPortText s.toList) fun p c =>
      { c with metrics := { c.metrics with port := p } },
    overrideText "PORTWATCH_METRICS_ENDPOINT" fun s c => { c with metrics := { c.metrics with endpoint := s } }]

/-- Every variable, in the order in which they are applied. -/
def overrides : List Override :=
  generalOverrides ++ engineOverrides ++ filterOverrides ++ captureOverrides ++ metricsOverrides

/-- Applies one variable. -/
def applyOverride (e : Environment) (o : Override) (c : Config) (t : Telemetry) : Config × Telemetry :=
  match e.text? o.key with
  | none => (c, t)
  | some text =>
    match o.put text c with
    | some c => (c, t)
    | none =>
      (c, t.log .configuration .warn s!"failed to parse {o.kind} from env var, ignoring"
        [("env_key", .text o.key), ("value", .text text)])

/-- Applies every variable of the environment. -/
def applyEnvironment (e : Environment) (c : Config) (t : Telemetry) : Config × Telemetry :=
  overrides.foldl (fun (c, t) o => applyOverride e o c t) (c, t)

end Config
end FrameSentry
