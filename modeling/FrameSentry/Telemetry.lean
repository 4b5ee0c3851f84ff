import FrameSentry.Counters

/-! What the program tells about itself: log entries and changes of metrics, each in the order in which they
    are made. -/

namespace FrameSentry

/-- How much a log entry matters, the least first. -/
inductive Level where
  | trace
  | debug
  | info
  | warn
  | error
deriving DecidableEq, Repr

namespace Level

def name : Level → String
  | trace => "TRACE"
  | debug => "DEBUG"
  | info => "INFO"
  | warn => "WARN"
  | error => "ERROR"

/-- The greater rank matters more. -/
def rank : Level → Nat
  | trace => 0
  | debug => 1
  | info => 2
  | warn => 3
  | error => 4

end Level

/-- The part of the program that a log entry comes from. -/
inductive Component where
  | configuration
  | engine
  | loader
  | rules
  | diagnostics
  | daemon
  | orchestrator
  | consumer
  | listener
deriving DecidableEq, Repr

/-- The name by which a log filter selects a component's entries. -/
def Component.target : Component → String
  | configuration => "portwatch_core::config"
  | engine => "portwatch_engine::engine"
  | loader => "portwatch_engine::loader"
  | rules => "portwatch_engine::config"
  | diagnostics => "portwatch_engine::diagnostics"
  | daemon => "portwatch_daemon"
  | orchestrator => "portwatch_daemon::orchestrator"
  | consumer => "portwatch_daemon::consumer"
  | listener => "portwatch_daemon::metrics_server"

/-- A value of a log entry's field. -/
inductive FieldValue where
  | number (n : Nat)
  | flag (b : Bool)
  | text (s : String)
deriving DecidableEq, Repr

/-- One log entry. -/
structure LogEntry where
  component : Component
  level : Level
  message : String
  fields : List (String × FieldValue)
deriving DecidableEq, Repr

/-- How a metric changes. -/
inductive MetricChange where
  | increment (n : UInt64)
  | absolute (n : UInt64)
deriving DecidableEq, Repr

/-- One change of a metric. -/
structure MetricUpdate where
  name : String
  labels : List (String × String)
  change : MetricChange
deriving DecidableEq, Repr

/-- Everything told so far, the oldest first. -/
structure Telemetry where
  logs : List LogEntry
  metrics : List MetricUpdate
deriving DecidableEq, Repr

namespace Telemetry

/-- Nothing told yet. -/
def empty : Telemetry := ⟨[], []⟩

/-- One more log entry. -/
def log (t : Telemetry) (component : Component) (level : Level) (message : String)
    (fields : List (String × FieldValue)) : Telemetry :=
  { t with logs := t.logs ++ [⟨component, level, message, fields⟩] }

/-- One more count of a metric. -/
def count (t : Telemetry) (name : String) (labels : List (String × String)) : Telemetry :=
  { t with metrics := t.metrics ++ [⟨name, labels, .increment 1⟩] }

/-- All that one telemetry tells, and then all that another does. -/
def append (t u : Telemetry) : Telemetry := ⟨t.logs ++ u.logs, t.metrics ++ u.metrics⟩

end Telemetry
end FrameSentry
