import FrameSentry.Error

/-! The configuration of the daemon: five sections, each with its fields and what they are where the
    configuration does not say. -/

namespace FrameSentry

/-- Logging, and the file that holds the process id. -/
structure GeneralConfig where
  logLevel : String := "info"
  logFormat : String := "json"
  pidFile : String := "/var/run/portwatch/portwatch.pid"
deriving DecidableEq, Repr, Inhabited

/-- The engine: whether it runs, how, and where. Sizes and times are words of 64 bits. -/
structure EngineSection where
  enabled : Bool := false
  mode : String := "capture"
  interface : String := "eth0"
  programPath : String := "target/bpfel-unknown-none/release/portwatch-ebpf"
  statsInterval : Nat := 1
  watchListLimit : Nat := 1024
deriving DecidableEq, Repr, Inhabited

/-- The ports to watch, and a file with more of them. -/
structure FilterConfig where
  ports : List UInt16 := [8000]
  rulesPath : String := ""
deriving DecidableEq, Repr, Inhabited

/-- The ring that the kernel writes to, and the most bytes of a frame that are captured. -/
structure CaptureConfig where
  ringBufferSize : Nat := 262144
  maxCapture : Nat := 65535
deriving DecidableEq, Repr, Inhabited

/-- The listener that serves metrics. -/
structure MetricsConfig where
  enabled : Bool := false
  listenAddress : String := "127.0.0.1"
  port : UInt16 := 9100
  endpoint : String := "/metrics"
deriving DecidableEq, Repr, Inhabited

/-- The whole configuration. -/
structure Config where
  general : GeneralConfig := {}
  engine : EngineSection := {}
  filter : FilterConfig := {}
  capture : CaptureConfig := {}
  metrics : MetricsConfig := {}
deriving DecidableEq, Repr, Inhabited

namespace Config

def logLevels : List String := ["trace", "debug", "info", "warn", "error"]

def logFormats : List String := ["json", "pretty"]

def modes : List String := ["capture", "enforce"]

/-- The most ports that a watch list may be configured to hold. -/
def watchListBound : Nat := 65535

/-- The greatest ring that may be configured. -/
def ringBufferBound : Nat := 1 <<< 30

/-- The most bytes of a frame that may be captured. -/
def maxCaptureBound : Nat := 65535

/-- Refuses a field unless a condition holds. -/
def require (ok : Bool) (field reason : String) : Except Error Unit :=
  if ok then .ok () else .error (.invalidValue field reason)

/-- The text of a refusal that lists what is allowed. -/
def oneOf (allowed : List String) : String := "must be one of: " ++ ", ".intercalate allowed

/-- The checks of a configured port list, its repetitions counted. -/
def validatePorts (ports : List UInt16) (limit : Nat) : Except Error Unit := do
  require (!ports.isEmpty) "filter.ports" "at least one port must be watched"
  require (!ports.contains 0) "filter.ports" "port 0 is not valid"
  require (ports.length ≤ limit) "filter.ports"
    s!"{ports.length} ports exceed engine.watch_list_max_entries ({limit})"

/-- The checks of an engine that is to run. -/
def validateEnabled (e : EngineSection) : Except Error Unit := do
  require (modes.contains e.mode) "engine.mode" (oneOf modes)
  require (e.interface != "") "engine.interface" "interface must not be empty when engine is enabled"
  require (e.programPath != "") "engine.program_path" "program path must not be empty when engine is enabled"

/-- Checks the fields in a fixed order and refuses the first that is wrong. The engine's mode, interface and
    program matter only if it is to run. -/
def validate (c : Config) : Except Error Unit := do
  require (logLevels.contains c.general.logLevel) "general.log_level" (oneOf logLevels)
  require (logFormats.contains c.general.logFormat) "general.log_format" (oneOf logFormats)
  if c.engine.enabled then validateEnabled c.engine
  require (1 ≤ c.engine.watchListLimit && c.engine.watchListLimit ≤ watchListBound)
    "engine.watch_list_max_entries" s!"must be between 1 and {watchListBound}"
  require (1 ≤ c.engine.statsInterval) "engine.stats_interval_secs" "must be greater than 0"
  validatePorts c.filter.ports c.engine.watchListLimit
  require (1 ≤ c.capture.ringBufferSize && c.capture.ringBufferSize ≤ ringBufferBound)
    "capture.ring_buffer_size" s!"must be between 1 and {ringBufferBound}"
  require (1 ≤ c.capture.maxCapture && c.capture.maxCapture ≤ maxCaptureBound)
    "capture.max_capture" s!"must be between 1 and {maxCaptureBound}"

/-- A configuration that passes has a queue no larger than a ring may be. -/
theorem validate_ring {c : Config} (hc : c.validate = .ok ()) : c.capture.ringBufferSize ≤ ringBufferBound := by
  refine Decidable.byContradiction fun hlarge => ?_
  have hrefused : ∀ field reason, require (1 ≤ c.capture.ringBufferSize && c.capture.ringBufferSize ≤ ringBufferBound)
      field reason = .error (.invalidValue field reason) := by
    intro field reason
    simp [require, hlarge]
  unfold validate at hc
  simp only [hrefused, bind, Except.bind] at hc
  repeat' split at hc
  all_goals cases hc

end Config
end FrameSentry
