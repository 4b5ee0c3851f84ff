import FrameSentry.Daemon.LogLine
import FrameSentry.Daemon.Program

/-! The daemon's command line. It gathers what the program works on, runs the program, and prints what the
    program says. The tree of files that the program sees holds the files that its configuration names. No
    packet socket and no kernel object is at hand, so an engine that is enabled does not start. -/

namespace FrameSentry.Main

/-- The variables that the program looks at. -/
def keys : List String := "RUST_LOG" :: Config.overrides.map (·.key)

/-- The environment of the process. -/
def environment : IO Environment := do
  let settings ← keys.filterMapM fun key => do
    return (← IO.getEnv key).map fun text => (key, some text)
  return ⟨settings⟩

/-- The tree with the file at a path, if it can be read. -/
def gather (fs : Files) (path : String) : IO Files := do
  try
    let content ← IO.FS.readBinFile path
    return fs.plant path (.file 0o644 content.toList)
  catch _ => return fs

/-- The files that a command line and its configuration name. -/
def files (e : Environment) (line : CommandLine) : IO Files := do
  let fs ← gather .empty line.configPath
  match (Config.load fs e line.configPath .empty).1 with
  | .error _ => return fs
  | .ok c => [c.filter.rulesPath, (line.apply c).general.pidFile].foldlM gather fs

/-- The number of the process. -/
def processId : IO Nat := do
  try
    let text ← IO.FS.readFile "/proc/self/stat"
    return Numeral.value 10 (text.toList.takeWhile (Numeral.isDigit 10))
  catch _ => return 0

/-- A machine without packet sockets and kernel objects, on which the daemon is ended as soon as it serves. -/
def surroundings : Surroundings :=
  ⟨{ processors := 1
     pageSize := 4096
     interfaces := []
     socketFault? := some "Operation not permitted (os error 1)"
     bindFault? := fun _ => none
     object? := fun _ => none },
    fun _ => none, .ok .terminate, []⟩

end FrameSentry.Main

open FrameSentry FrameSentry.Main in
def main (args : List String) : IO UInt32 := do
  let e ← environment
  let fs ← match CommandLine.parse args with
    | .ok line => files e line
    | .error _ => pure Files.empty
  let completion := Program.run surroundings (← processId) args e fs
  completion.log.forM fun entry => IO.println (LogLine.ofEntry entry)
  completion.output.forM IO.println
  completion.errors.forM IO.eprintln
  return UInt32.ofNat completion.exitCode
