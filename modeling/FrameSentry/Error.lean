/-! What can go wrong, by cause, and the text of each cause. -/

namespace FrameSentry

/-- Why a configuration is refused. -/
inductive ConfigError where
  | fileNotFound (path : String)
  | parseFailed (reason : String)
  | invalidValue (field : String) (reason : String)
deriving DecidableEq, Repr

/-- Why the engine is not built, or does not start or stop. -/
inductive PipelineError where
  | initFailed (reason : String)
  | alreadyRunning
  | notRunning
deriving DecidableEq, Repr

/-- Why a frame is not captured. -/
inductive CaptureError where
  | bufferFull (requested available : Nat)
  | copyFailure (needed available : Nat)
  | closed
deriving DecidableEq, Repr

/-- Why the kernel side cannot be set up. -/
inductive AttachError where
  | programLoad (reason : String)
  | map (reason : String)
  | socket (reason : String)
  | unsupported (reason : String)
deriving DecidableEq, Repr

/-- Any failure, by the part that reports it. -/
inductive Error where
  | config (cause : ConfigError)
  | pipeline (cause : PipelineError)
  | capture (cause : CaptureError)
  | attach (cause : AttachError)
  | io (reason : String)
deriving DecidableEq, Repr

def ConfigError.message : ConfigError → String
  | .fileNotFound path => s!"config file not found: {path}"
  | .parseFailed reason => s!"failed to parse config: {reason}"
  | .invalidValue field reason => s!"invalid config value for '{field}': {reason}"

def PipelineError.message : PipelineError → String
  | .initFailed reason => s!"pipeline init failed: {reason}"
  | .alreadyRunning => "pipeline already running"
  | .notRunning => "pipeline not running"

def CaptureError.message : CaptureError → String
  | .bufferFull requested available =>
    s!"capture buffer full: requested {requested} bytes, {available} available"
  | .copyFailure needed available => s!"capture copy failed: needed {needed} bytes, {available} readable"
  | .closed => "capture consumer closed"

def AttachError.message : AttachError → String
  | .programLoad reason => s!"program load failed: {reason}"
  | .map reason => s!"map error: {reason}"
  | .socket reason => s!"socket error: {reason}"
  | .unsupported reason => s!"unsupported: {reason}"

/-- The text of a failure names the part that reports it first. -/
def Error.message : Error → String
  | .config cause => s!"config error: {cause.message}"
  | .pipeline cause => s!"pipeline error: {cause.message}"
  | .capture cause => s!"capture error: {cause.message}"
  | .attach cause => s!"attach error: {cause.message}"
  | .io reason => s!"io error: {reason}"

/-- A configuration value that is refused. -/
def Error.invalidValue (field reason : String) : Error := .config (.invalidValue field reason)

end FrameSentry
