import FrameSentry.Config.Document
import FrameSentry.Config.Overrides
import FrameSentry.Files

/-! Loading: a configuration from its file and the environment, and rules from a rules file. A file must be
    valid by itself before the environment is looked at, and what comes out of both must be valid again. -/

namespace FrameSentry

/-- A file that is missing, or that cannot be read. -/
def FileError.toError (path : String) : FileError → Error
  | .notFound => .config (.fileNotFound path)
  | e => .io e.message

namespace Config

/-- The configuration of a file. -/
def ofFile (fs : Files) (path : String) : Except Error Config := do
  let text ← (fs.readText path).mapError (FileError.toError path)
  let config ← parse text
  validate config
  return config

/-- The configuration of a file with the environment applied to it. -/
def load (fs : Files) (e : Environment) (path : String) (t : Telemetry) : Except Error Config × Telemetry :=
  match ofFile fs path with
  | .error e => (.error e, t)
  | .ok config =>
    let (config, t) := config.applyEnvironment e t
    match config.validate with
    | .error e => (.error e, t)
    | .ok () => (.ok config, t)

end Config

namespace PortRule

/-- The rules of a rules file. A file that is missing holds none, which is told as a warning. -/
def load (fs : Files) (path : String) (t : Telemetry) : Except Error (List PortRule) × Telemetry :=
  match fs.readText path with
  | .ok text => (parseList path text, t)
  | .error .notFound =>
    (.ok [], t.log .rules .warn "rules file not found, no extra rules loaded" [("path", .text path)])
  | .error e => (.error (.io e.message), t)

end PortRule
end FrameSentry
