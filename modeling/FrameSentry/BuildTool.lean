import FrameSentry.Files

/-! The build helper: it builds the kernel programs by calling a compiler driver in their directory. -/

namespace FrameSentry.BuildTool

/-- What a command line of the helper asks for. -/
inductive Request where
  | build (release : Bool)
  | help (lines : List String)
  | wrong
deriving DecidableEq, Repr

/-! ### Help -/

def topHelp : List String :=
  ["portwatch 빌드 태스크", "", "Usage: xtask <COMMAND>", "", "Commands:",
    "  build-ebpf  커널 프로그램(socket filter + TC classifier) 빌드",
    "  help        Print this message or the help of the given subcommand(s)", "", "Options:", "  -h, --help  Print help"]

def buildHelp : List String :=
  ["커널 프로그램(socket filter + TC classifier) 빌드", "", "Usage: xtask build-ebpf [OPTIONS]", "", "Options:",
    "      --release  릴리스 모드로 빌드", "  -h, --help     Print help"]

def helpHelp : List String :=
  ["Print this message or the help of the given subcommand(s)", "", "Usage: xtask help [COMMAND]...", "", "Arguments:",
    "  [COMMAND]...  Print help for the subcommand(s)"]

/-! ### The command line -/

/-- The argument asks for help. A letter for help may be followed by others. -/
def asksHelp (arg : String) : Bool := arg = "--help" || ['-', 'h'].isPrefixOf arg.toList

/-- The arguments after the command that builds. -/
def readBuild (release : Bool) : List String → Request
  | [] => .build release
  | ["--"] => .build release
  | arg :: rest =>
    if asksHelp arg then .help buildHelp
    else if arg = "--release" && !release then readBuild true rest
    else .wrong

/-- The arguments after the command for help. -/
def readHelp : List String → Request
  | [] => .help topHelp
  | ["build-ebpf"] => .help buildHelp
  | ["help"] => .help helpHelp
  | _ => .wrong

/-- What the arguments after the program's name ask for. A command must be given. -/
def read : List String → Request
  | "build-ebpf" :: rest => readBuild false rest
  | "help" :: rest => readHelp rest
  | arg :: _ => if asksHelp arg then .help topHelp else .wrong
  | [] => .wrong

/-! ### Building -/

/-- How a run of the helper ends: its exit code, what it prints, and the calls that it made, each with the
    directory that it was made in. -/
structure Completion where
  exitCode : Nat
  output : List String
  errors : List String
  calls : List (String × List String)
deriving DecidableEq, Repr

/-- The directory of the kernel programs. -/
def directory : String := "crates/frame-engine/ebpf"

/-- What the compiler driver is called with. -/
def arguments (release : Bool) : List String :=
  ["+nightly", "build", "--target=bpfel-unknown-none", "--target-dir=../../../target", "-Z", "build-std=core"] ++
    (if release then ["--release"] else [])

/-- Why the compiler driver cannot be called: its directory is not there, or it is not there itself. -/
def callFault (fs : Files) (compiler : Option Nat) : Option FileError :=
  match fs.resolve directory with
  | .error e => some e
  | .ok spot =>
    match spot.node? with
    | none => some .notFound
    | some (.file _ _) => some .notDirectory
    | some (.directory _) => if compiler.isNone then some .notFound else none

/-- Builds the kernel programs. The compiler driver, if there is one, is given by the status that it exits
    with. -/
def build (fs : Files) (compiler : Option Nat) (release : Bool) : Completion :=
  match callFault fs compiler with
  | some e => ⟨1, [], [s!"failed to run cargo for portwatch-ebpf: {e.message}"], []⟩
  | none =>
    let calls := [(directory, arguments release)]
    if compiler = some 0 then
      let profile := if release then "release" else "debug"
      ⟨0, [s!"portwatch-ebpf built: target/bpfel-unknown-none/{profile}/portwatch-ebpf"], [], calls⟩
    else ⟨1, [], ["portwatch-ebpf build failed"], calls⟩

/-- Runs the helper. -/
def run (fs : Files) (compiler : Option Nat) (args : List String) : Completion :=
  match read args with
  | .build release => build fs compiler release
  | .help lines => ⟨0, lines, [], []⟩
  | .wrong => ⟨2, [], [], []⟩

end FrameSentry.BuildTool
