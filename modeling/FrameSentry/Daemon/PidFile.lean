import FrameSentry.Daemon.Error
import FrameSentry.Files
import FrameSentry.Telemetry

/-! The file that holds the process id. It is only ever created, never overwritten, so that of several
    daemons with the same file one alone goes on. -/

namespace FrameSentry.PidFile

/-- The permissions of the directories that are made for the file, of a new file, and of the file once it is
    there. -/
def directoryMode : Nat := 0o700

def newMode : Nat := 0o644

def finalMode : Nat := 0o600

/-- Makes the directories that the file lies in. -/
def makeParents (path : String) (fs : Files) : Except FileError Unit × Files :=
  fs.makeDirectories directoryMode (Path.ofText path).namesAbove

/-- What stands in the way of a new file: its text without the white space around it, if it is text. -/
def owner (path : String) (fs : Files) : String :=
  match fs.readText path with
  | .ok text => String.ofList (trim text.toList)
  | .error _ => "unknown"

/-- The line that a process writes. -/
def line (pid : Nat) : Bytes := s!"{pid}\n".toUTF8.data.toList

/-- What is done with the file once it is created. -/
def fillNew (path : String) (pid : Nat) (place : Place) (fs : Files) : Except DaemonError Unit × Files :=
  match fs.permit .inspect with
  | .error e => (.error (.system e.message), fs)
  | .ok () =>
    if (fs.node? place).any (·.isDirectory) then
      (.error (.pidFileIrregular path), (fs.remove path).toOption.getD fs)
    else
      match fs.setMode place finalMode with
      | .error e => (.error (.system e.message), fs)
      | .ok fs =>
        match fs.append place (line pid) with
        | (.error e, fs) => (.error (.system e.message), fs)
        | (.ok (), fs) => (.ok (), fs)

/-- Makes the directories that the file lies in, creates it and writes the process id into it. A step that
    fails ends the work; what was done before it stays. -/
def make (path : String) (pid : Nat) (fs : Files) : Except DaemonError Unit × Files :=
  match makeParents path fs with
  | (.error e, fs) => (.error (.system e.message), fs)
  | (.ok (), fs) =>
    match fs.create path newMode with
    | .error .exists => (.error (.pidFileExists path (owner path fs)), fs)
    | .error e => (.error (.system e.message), fs)
    | .ok (place, fs) => fillNew path pid place fs

/-- Writes the file, and tells so. -/
def write (path : String) (pid : Nat) (fs : Files) (t : Telemetry) : Except DaemonError Unit × Files × Telemetry :=
  match make path pid fs with
  | (.error e, fs) => (.error e, fs, t)
  | (.ok (), fs) =>
    (.ok (), fs, t.log .orchestrator .info "PID file written" [("pid", .number pid), ("path", .text path)])

/-- Removes the file. A failure is only told. -/
def remove (path : String) (fs : Files) (t : Telemetry) : Files × Telemetry :=
  match fs.remove path with
  | .ok fs => (fs, t.log .orchestrator .info "PID file removed" [("path", .text path)])
  | .error e =>
    (fs, t.log .orchestrator .warn "failed to remove PID file" [("path", .text path), ("error", .text e.message)])

end FrameSentry.PidFile
