import FrameSentry.Telemetry
import FrameSentry.Text.Numeral

/-! Log lines: a log entry as one line of text, an object with the entry's level, its message among its
    fields, and its target. -/

namespace FrameSentry.LogLine

/-- A control character as its number in four hexadecimal digits. -/
def escapeControl (c : Char) : List Char :=
  let digits := Numeral.write 16 c.toNat
  '\\' :: 'u' :: (List.replicate (4 - digits.length) '0' ++ digits)

/-- A character of quoted text. -/
def escape (c : Char) : List Char :=
  if c = '"' then ['\\', '"']
  else if c = '\\' then ['\\', '\\']
  else if c = '\n' then ['\\', 'n']
  else if c.toNat < 0x20 then escapeControl c
  else [c]

/-- Text in quotes. -/
def quoted (s : String) : String := String.ofList (('"' :: s.toList.flatMap escape) ++ ['"'])

def value : FieldValue → String
  | .number n => toString n
  | .flag true => "true"
  | .flag false => "false"
  | .text s => quoted s

/-- An object of fields, each value written already. -/
def object (fields : List (String × String)) : String :=
  "\x7b" ++ ",".intercalate (fields.map fun (name, value) => quoted name ++ ":" ++ value) ++ "\x7d"

/-- The line of an entry. -/
def ofEntry (e : LogEntry) : String :=
  let fields := ("message", FieldValue.text e.message) :: e.fields
  object [("level", quoted e.level.name), ("fields", object (fields.map fun (name, v) => (name, value v))),
    ("target", quoted e.component.target)]

end FrameSentry.LogLine
