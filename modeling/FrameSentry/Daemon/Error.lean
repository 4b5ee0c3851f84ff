import FrameSentry.Error

/-! Why the daemon cannot be set up or cannot go on, by cause, and the text of each cause. -/

namespace FrameSentry

/-- Why the daemon gives up. -/
inductive DaemonError where
  | load (cause : Error)
  | loadFile (path : String) (cause : Error)
  | invalid (cause : Error)
  | rejected (cause : Error)
  | logFormat (format : String)
  | endpoint (path : String)
  | listenAddress
  | recorder (reason : String)
  | rules (cause : Error)
  | build (cause : Error)
  | start (cause : Error)
  | stop (cause : Error)
  | signal (reason : String)
  | pidFileExists (path : String) (owner : String)
  | pidFileIrregular (path : String)
  | system (reason : String)
deriving DecidableEq, Repr

def DaemonError.message : DaemonError → String
  | .load cause => s!"failed to load config: {cause.message}"
  | .loadFile path cause => s!"failed to load {path}: {cause.message}"
  | .invalid cause => s!"config validation failed: {cause.message}"
  | .rejected cause => s!"invalid configuration: {cause.message}"
  | .logFormat format => s!"unknown log format '{format}', expected 'json' or 'pretty'"
  | .endpoint path => s!"unsupported metrics endpoint '{path}': only '/metrics' is currently supported"
  | .listenAddress => "invalid metrics listen address: invalid socket address syntax"
  | .recorder reason => s!"failed to install metrics recorder: {reason}"
  | .rules cause => s!"failed to load rules: {cause.message}"
  | .build cause => s!"failed to build frame engine: {cause.message}"
  | .start cause => s!"failed to start frame engine: {cause.message}"
  | .stop cause => s!"failed to stop frame engine: {cause.message}"
  | .signal reason => reason
  | .pidFileExists path owner =>
    s!"PID file {path} already exists with PID: {owner}. Is another instance running?"
  | .pidFileIrregular path => s!"PID file {path} is not a regular file"
  | .system reason => reason

end FrameSentry
