import FrameSentry.Config.Basic
import FrameSentry.Daemon.Version

/-! The command line of the daemon. Options that take a value may have it attached, with an equals sign or,
    for a short one, without; or the value is the next argument, unless that looks like an option. A value that
    stands apart is looked at only when the next option or the end is reached. -/

namespace FrameSentry

/-- What the command line asks for. -/
structure CommandLine where
  config : Option String := none
  logLevel : Option String := none
  logFormat : Option String := none
  pidFile : Option String := none
  validate : Bool := false
deriving DecidableEq, Repr, Inhabited

/-- Why a command line is not run: it is wrong, or it asks for help or for the version. -/
inductive UsageError where
  | invalidValue
  | unknownArgument
  | argumentConflict
  | tooManyValues
  | help (long : Bool)
  | version
deriving DecidableEq, Repr

/-- Asking for help or for the version is no failure. -/
def UsageError.exitCode : UsageError → Nat
  | .help _ => 0
  | .version => 0
  | _ => 2

namespace CommandLine

/-- An option that takes a value. -/
inductive Setting where
  | config
  | logLevel
  | logFormat
  | pidFile
deriving DecidableEq, Repr

/-- An option that takes none. -/
inductive Switch where
  | validate
  | help
  | version
deriving DecidableEq, Repr

/-- An option. -/
inductive Named where
  | setting (s : Setting)
  | switch (s : Switch)
deriving DecidableEq, Repr

def ofLong : String → Option Named
  | "config" => some (.setting .config)
  | "log-level" => some (.setting .logLevel)
  | "log-format" => some (.setting .logFormat)
  | "pid-file" => some (.setting .pidFile)
  | "validate" => some (.switch .validate)
  | "help" => some (.switch .help)
  | "version" => some (.switch .version)
  | _ => none

def ofShort : Char → Option Named
  | 'c' => some (.setting .config)
  | 'h' => some (.switch .help)
  | 'V' => some (.switch .version)
  | _ => none

/-- What is read so far, and an option whose value stands apart, with that value once it is there. -/
structure Progress where
  line : CommandLine
  pending : Option (Setting × Option String)
deriving DecidableEq, Repr

/-- A value for what may be given only once. -/
def once (old : Option String) (value : String) : Except UsageError (Option String) :=
  if old.isSome then .error .argumentConflict else .ok (some value)

/-- Gives an option its value. A path must not be empty. -/
def store (line : CommandLine) (s : Setting) (value : String) : Except UsageError CommandLine :=
  match s with
  | .config => do
    let config ← once line.config value
    if value = "" then .error .invalidValue else return { line with config }
  | .logLevel => return { line with logLevel := ← once line.logLevel value }
  | .logFormat => return { line with logFormat := ← once line.logFormat value }
  | .pidFile => return { line with pidFile := ← once line.pidFile value }

/-- Gives the pending option its value, which must be there. -/
def resolve (p : Progress) : Except UsageError CommandLine :=
  match p.pending with
  | none => .ok p.line
  | some (_, none) => .error .invalidValue
  | some (s, some value) => store p.line s value

/-- Takes an option that takes no value. -/
def flip (line : CommandLine) (long : Bool) : Switch → Except UsageError CommandLine
  | .validate => if line.validate then .error .argumentConflict else .ok { line with validate := true }
  | .help => .error (.help long)
  | .version => .error .version

/-- Takes an option with the value that is attached to it, or waits for its value. -/
def set (p : Progress) (s : Setting) (attached : Option String) : Except UsageError Progress := do
  let line ← resolve p
  match attached with
  | none => return ⟨line, some (s, none)⟩
  | some value => return ⟨← store line s value, none⟩

/-- The text before the first equals sign, and the text after it if there is one. -/
def splitEquals (s : List Char) : List Char × Option (List Char) :=
  (s.takeWhile (· ≠ '='), match s.dropWhile (· ≠ '=') with
    | _ :: value => some value
    | [] => none)

/-- Takes a long option, without its dashes. -/
def takeLong (p : Progress) (s : List Char) : Except UsageError Progress := do
  let (name, attached) := splitEquals s
  match ofLong (String.ofList name), attached with
  | none, _ => .error .unknownArgument
  | some (.setting s), _ => set p s (attached.map String.ofList)
  | some (.switch _), some _ => .error .tooManyValues
  | some (.switch s), none => return ⟨← flip (← resolve p) true s, none⟩

/-- The value that is attached to a short option, an equals sign in front left out. -/
def attachedValue : List Char → Option String
  | [] => none
  | '=' :: value => some (String.ofList value)
  | value => some (String.ofList value)

/-- Takes short options one after the other, without their dash. The first that takes a value takes what is
    left. -/
def takeShort (p : Progress) : List Char → Except UsageError Progress
  | [] => .ok p
  | c :: rest =>
    match ofShort c with
    | none => .error .unknownArgument
    | some (.setting s) => set p s (attachedValue rest)
    | some (.switch s) => do takeShort ⟨← flip (← resolve p) false s, none⟩ rest

/-- Takes an argument that is no option: the value of the option before it, or else nothing that is known. -/
def takeValue (p : Progress) (value : String) : Except UsageError Progress :=
  match p.pending with
  | some (s, none) => .ok ⟨p.line, some (s, some value)⟩
  | _ => .error .unknownArgument

/-- Takes one argument. -/
def take (p : Progress) (arg : String) : Except UsageError Progress :=
  match arg.toList with
  | '-' :: '-' :: long => takeLong p long
  | '-' :: c :: short => takeShort p (c :: short)
  | _ => takeValue p arg

/-- Takes arguments up to the end. After two dashes alone no argument is known. -/
def takeAll : List String → Progress → Except UsageError CommandLine
  | [], p => resolve p
  | ["--"], p => resolve p
  | "--" :: _, _ => .error .unknownArgument
  | arg :: rest, p => do takeAll rest (← take p arg)

/-- What the arguments after the program's name ask for. -/
def parse (args : List String) : Except UsageError CommandLine := takeAll args ⟨{}, none⟩

/-- The configuration file where none is named. -/
def standardConfig : String := "/etc/portwatch/portwatch.toml"

def configPath (line : CommandLine) : String := line.config.getD standardConfig

/-- Options take precedence over the configuration. -/
def apply (line : CommandLine) (c : Config) : Config :=
  { c with general :=
    { logLevel := line.logLevel.getD c.general.logLevel
      logFormat := line.logFormat.getD c.general.logFormat
      pidFile := line.pidFile.getD c.general.pidFile } }

/-! ### Help -/

/-- The head that both help texts have. -/
def helpHead : List String :=
  ["portwatch daemon -- frame engine lifecycle and capture consumer", "", "Usage: portwatch-daemon [OPTIONS]", "",
    "Options:"]

def shortHelp : List String :=
  helpHead ++
  ["  -c, --config <CONFIG>          Path to portwatch.toml configuration file " ++
      "[default: /etc/portwatch/portwatch.toml]",
    "      --log-level <LOG_LEVEL>    Override log level (trace, debug, info, warn, error)",
    "      --log-format <LOG_FORMAT>  Override log format (json, pretty)",
    "      --validate                 Validate configuration file and exit without starting the daemon",
    "      --pid-file <PID_FILE>      Override PID file path (takes precedence over config file)",
    "  -h, --help                     Print help (see more with '--help')",
    "  -V, --version                  Print version"]

def longHelp : List String :=
  helpHead ++
  ["  -c, --config <CONFIG>", "          Path to portwatch.toml configuration file", "          ",
    "          [default: /etc/portwatch/portwatch.toml]", "",
    "      --log-level <LOG_LEVEL>", "          Override log level (trace, debug, info, warn, error).", "          ",
    "          Takes precedence over the config file and environment variables.", "",
    "      --log-format <LOG_FORMAT>", "          Override log format (json, pretty).", "          ",
    "          Takes precedence over the config file and environment variables.", "",
    "      --validate", "          Validate configuration file and exit without starting the daemon", "",
    "      --pid-file <PID_FILE>", "          Override PID file path (takes precedence over config file)", "",
    "  -h, --help", "          Print help (see a summary with '-h')", "",
    "  -V, --version", "          Print version"]

/-- The lines that a command line gets that is not run. A wrong one gets none. -/
def usageLines : UsageError → List String
  | .help true => longHelp
  | .help false => shortHelp
  | .version => [s!"portwatch-daemon {FrameSentry.version}"]
  | _ => []

end CommandLine
end FrameSentry
