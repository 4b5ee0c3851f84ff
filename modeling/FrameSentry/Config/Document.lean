import FrameSentry.Config.Basic
import FrameSentry.Engine.Settings
import FrameSentry.Toml.Document

/-! Configurations and rules files as TOML documents. A section is a table, or an array of its fields in their
    order; what it does not give is as it is by default. Keys that nobody knows are passed over as long as
    their numbers can be represented; a value of another kind than its field spoils the document. -/

namespace FrameSentry

namespace Toml

/-- The values that a section gives, by the names of its fields or by their places. -/
inductive Fields where
  | named (entries : List (String × Value))
  | placed (items : List Value)

/-- The fields of a section. A date or a time has none. The values at names that are not known must be in
    range. -/
def Value.fields? (known : List String) : Value → Option Fields
  | .table entries =>
    if entries.all fun (name, v) => known.contains name || v.inRange then some (.named entries) else none
  | .array items => some (.placed items)
  | .moment _ => some (.named [])
  | _ => none

/-- What a section gives for a field, if it gives anything. -/
def Fields.get? (name : String) (place : Nat) : Fields → Option Value
  | .named entries => entries.lookup name
  | .placed items => items[place]?

/-- The value of a field, or the default where the section does not give it. -/
def Fields.read {α : Type} (fields : Fields) (name : String) (place : Nat) (of? : Value → Option α) (default : α) :
    Option α :=
  match fields.get? name place with
  | none => some default
  | some v => of? v

def Value.text? : Value → Option String
  | .text s => some s
  | _ => none

def Value.flag? : Value → Option Bool
  | .flag b => some b
  | _ => none

/-- An integer that is not negative and below a limit. -/
def Value.natural? (limit : Nat) : Value → Option Nat
  | .integer (some n) => if 0 ≤ n && n < limit then some n.toNat else none
  | _ => none

/-- A word of 64 bits. -/
def Value.word? (v : Value) : Option Nat := v.natural? wordLimit

def Value.port? (v : Value) : Option UInt16 := (v.natural? 65536).map UInt16.ofNat

def Value.ports? : Value → Option (List UInt16)
  | .array items => items.mapM Value.port?
  | _ => none

end Toml

open Toml (Value Fields)

namespace GeneralConfig

def ofValue? (v : Value) : Option GeneralConfig := do
  let fields ← v.fields? ["log_level", "log_format", "pid_file"]
  let d : GeneralConfig := {}
  return { logLevel := ← fields.read "log_level" 0 Value.text? d.logLevel
           logFormat := ← fields.read "log_format" 1 Value.text? d.logFormat
           pidFile := ← fields.read "pid_file" 2 Value.text? d.pidFile }

end GeneralConfig

namespace EngineSection

def ofValue? (v : Value) : Option EngineSection := do
  let fields ← v.fields?
    ["enabled", "mode", "interface", "program_path", "stats_interval_secs", "watch_list_max_entries"]
  let d : EngineSection := {}
  return { enabled := ← fields.read "enabled" 0 Value.flag? d.enabled
           mode := ← fields.read "mode" 1 Value.text? d.mode
           interface := ← fields.read "interface" 2 Value.text? d.interface
           programPath := ← fields.read "program_path" 3 Value.text? d.programPath
           statsInterval := ← fields.read "stats_interval_secs" 4 Value.word? d.statsInterval
           watchListLimit := ← fields.read "watch_list_max_entries" 5 Value.word? d.watchListLimit }

end EngineSection

namespace FilterConfig

def ofValue? (v : Value) : Option FilterConfig := do
  let fields ← v.fields? ["ports", "rules_path"]
  let d : FilterConfig := {}
  return { ports := ← fields.read "ports" 0 Value.ports? d.ports
           rulesPath := ← fields.read "rules_path" 1 Value.text? d.rulesPath }

end FilterConfig

namespace CaptureConfig

def ofValue? (v : Value) : Option CaptureConfig := do
  let fields ← v.fields? ["ring_buffer_size", "max_capture"]
  let d : CaptureConfig := {}
  return { ringBufferSize := ← fields.read "ring_buffer_size" 0 Value.word? d.ringBufferSize
           maxCapture := ← fields.read "max_capture" 1 Value.word? d.maxCapture }

end CaptureConfig

namespace MetricsConfig

def ofValue? (v : Value) : Option MetricsConfig := do
  let fields ← v.fields? ["enabled", "listen_addr", "port", "endpoint"]
  let d : MetricsConfig := {}
  return { enabled := ← fields.read "enabled" 0 Value.flag? d.enabled
           listenAddress := ← fields.read "listen_addr" 1 Value.text? d.listenAddress
           port := ← fields.read "port" 2 Value.port? d.port
           endpoint := ← fields.read "endpoint" 3 Value.text? d.endpoint }

end MetricsConfig

namespace Config

/-- The configuration that a document gives. -/
def ofValue? (v : Value) : Option Config := do
  let fields ← v.fields? ["general", "engine", "filter", "capture", "metrics"]
  return { general := ← fields.read "general" 0 GeneralConfig.ofValue? {}
           engine := ← fields.read "engine" 1 EngineSection.ofValue? {}
           filter := ← fields.read "filter" 2 FilterConfig.ofValue? {}
           capture := ← fields.read "capture" 3 CaptureConfig.ofValue? {}
           metrics := ← fields.read "metrics" 4 MetricsConfig.ofValue? {} }

/-- The configuration that a text writes. -/
def parse (text : String) : Except Error Config :=
  match (Toml.parse text).bind fun entries => ofValue? (.table entries) with
  | some config => .ok config
  | none => .error (.config (.parseFailed "not a configuration"))

end Config

namespace PortRule

/-- A rule must have a name and ports. -/
def ofValue? (v : Value) : Option PortRule := do
  let fields ← v.fields? ["id", "ports", "description"]
  return { id := ← (← fields.get? "id" 0).text?
           ports := ← (← fields.get? "ports" 1).ports?
           description := ← fields.read "description" 2 Value.text? "" }

/-- The rules that a rules file gives. -/
def listOfValue? (v : Value) : Option (List PortRule) := do
  let fields ← v.fields? ["rules"]
  let rules (v : Value) : Option (List PortRule) :=
    match v with
    | .array items => items.mapM ofValue?
    | _ => none
  fields.read "rules" 0 rules []

/-- A rule is refused if its name is empty, or if it has no port or port 0. -/
def check (rule : PortRule) : Except Error Unit :=
  if rule.id = "" then .error (.invalidValue "rules.id" "rule id must not be empty")
  else if rule.ports.isEmpty || rule.ports.contains 0 then
    .error (.invalidValue s!"rules[{rule.id}].ports" "ports must be non-empty and non-zero")
  else .ok ()

/-- The rules that the text of a rules file writes; the first bad one refuses all. -/
def parseList (path text : String) : Except Error (List PortRule) := do
  let rules ← match (Toml.parse text).bind fun entries => listOfValue? (.table entries) with
    | some rules => .ok rules
    | none => .error (.config (.parseFailed s!"{path}: not a list of rules"))
  rules.forM check
  return rules

end PortRule
end FrameSentry
