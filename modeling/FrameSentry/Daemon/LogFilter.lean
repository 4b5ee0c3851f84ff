import FrameSentry.Telemetry
import FrameSentry.Text.Alphanumeric
import FrameSentry.Text.Blank
import FrameSentry.Text.Numeral

/-! Which log entries are written. A filter is a list of directives with commas between them. A directive has
    a level, and may name a target; it may also name a field in braces, and a span in brackets, within which
    alone it would hold. Of the directives that fit an entry the most specific one decides. -/

namespace FrameSentry.LogFilter

/-- One directive. No level at all lets nothing through. -/
structure Directive where
  level : Option Level
  target : Option String
  span : Option String
  field : Option (String × Option String)
deriving DecidableEq, Repr

/-- Why a text is no directive. -/
inductive DirectiveError where
  | malformed
  | level
deriving DecidableEq, Repr

def DirectiveError.message : DirectiveError → String
  | .malformed => "invalid filter directive"
  | .level =>
    "error parsing level filter: expected one of \"off\", \"error\", \"warn\", \"info\", \"debug\", \"trace\", " ++
      "or a number 0-5"

/-! ### Reading -/

/-- A level by its number; zero is none. -/
def numberedLevel : Nat → Option (Option Level)
  | 0 => some none
  | 1 => some (some .error)
  | 2 => some (some .warn)
  | 3 => some (some .info)
  | 4 => some (some .debug)
  | 5 => some (some .trace)
  | _ => none

/-- A level by its name, in letters of either case. -/
def namedLevel (s : String) : Option (Option Level) :=
  match String.ofList (s.toList.map Char.toLower) with
  | "" | "error" => some (some .error)
  | "warn" => some (some .warn)
  | "info" => some (some .info)
  | "debug" => some (some .debug)
  | "trace" => some (some .trace)
  | "off" => some none
  | _ => none

/-- The level that a text writes, as a number or as a name. -/
def readLevel (s : String) : Option (Option Level) :=
  ((Numeral.decimal? wordLimit s.toList).bind numberedLevel) <|> namedLevel s

/-- The level after an equals sign; nothing stands for every level. -/
def readGivenLevel (s : String) : Except DirectiveError (Option Level) :=
  if s = "" then .ok (some .trace)
  else
    match readLevel s with
    | some level => .ok level
    | none => .error .level

/-- A character that a directive may begin with, other than a bracket. -/
def isTargetStart (c : Char) : Bool := c = '-' || c = ':' || c = '_' || isAlphanumeric c

/-- The number of bytes that write a text. -/
def byteCount (s : List Char) : Nat := s.foldr (fun c n => c.utf8Size + n) 0

/-- The first characters of a text, which take so many bytes, and the rest. Refused if a character would be
    cut. -/
def splitBytes : Nat → List Char → Option (List Char × List Char)
  | 0, s => some ([], s)
  | _ + 1, [] => none
  | n + 1, c :: s =>
    if c.utf8Size ≤ n + 1 then
      (splitBytes (n + 1 - c.utf8Size) s).map fun (front, rest) => (c :: front, rest)
    else none

/-- A directive as it is given, and as it is scanned: without the white space around it. Its parts are cut out
    of the text as it is given, as far from the front as the scan finds them, so that white space at the front
    moves them. -/
structure Source where
  given : List Char
  scanned : List Char

/-- The given text from where a rest of the scanned text begins. -/
def Source.tail (s : Source) (rest : List Char) : Except DirectiveError (List Char) :=
  match splitBytes (byteCount s.scanned - byteCount rest) s.given with
  | some (_, text) => .ok text
  | none => .error .malformed

/-- The given text from where one rest of the scanned text begins up to where another one does. -/
def Source.between (s : Source) (rest later : List Char) : Except DirectiveError (List Char) := do
  match splitBytes (byteCount rest - byteCount later) (← s.tail rest) with
  | some (text, _) => .ok text
  | none => .error .malformed

/-- A field, with its value if there is one. -/
def fieldOf (s : List Char) : String × Option String :=
  match (splitAt '=' s).map String.ofList with
  | name :: value :: _ => (name, some value)
  | [name] => (name, none)
  | [] => ("", none)

/-- The field up to the closing brace, and what follows it. The field is not empty. -/
def readField (source : Source) (s : List Char) : Except DirectiveError ((String × Option String) × List Char) := do
  match s.dropWhile (· ≠ '\x7d') with
  | brace :: rest =>
    let inside ← source.between s (brace :: rest)
    if inside.isEmpty then .error .malformed else return (fieldOf inside, rest)
  | [] => .error .malformed

/-- What follows a target and a span: nothing, or a level. -/
def readAfterSpan (source : Source) (d : Directive) : List Char → Except DirectiveError Directive
  | [] => .ok d
  | '=' :: level => do return { d with level := ← readGivenLevel (String.ofList (← source.tail level)) }
  | _ => .error .malformed

/-- A span in brackets, with or without a field, and the level after it; the opening bracket is read. -/
def readSpan (source : Source) (d : Directive) (s : List Char) : Except DirectiveError Directive := do
  let mark := s.dropWhile fun c => c ≠ ']' && c ≠ '\x7b'
  let name := String.ofList (← source.between s mark)
  match mark with
  | ']' :: rest => readAfterSpan source { d with span := some name } rest
  | _ :: rest =>
    let (field, rest) ← readField source rest
    let span := if name = "" then none else some name
    match rest with
    | ']' :: rest => readAfterSpan source { d with span, field := some field } rest
    | _ => .error .malformed
  | [] => .error .malformed

/-- A directive. A text alone is a level if it reads as one, and else a target for which everything is
    written. -/
def readDirective (text : List Char) : Except DirectiveError Directive := do
  let all : Directive := ⟨some .trace, none, none, none⟩
  let source : Source := ⟨text, trim text⟩
  match source.scanned with
  | [] => .error .malformed
  | '[' :: rest => readSpan source all rest
  | c :: _ =>
    if !isTargetStart c then .error .malformed
    else
      match source.scanned.dropWhile fun c => c ≠ '=' && c ≠ '[' with
      | [] =>
        let word := String.ofList text
        match readLevel word with
        | some level => return { all with level }
        | none => return { all with target := some word }
      | mark :: rest =>
        let target := some (String.ofList (← source.between source.scanned (mark :: rest)))
        if mark = '=' then
          return { all with target, level := ← readGivenLevel (String.ofList (← source.tail rest)) }
        else readSpan source { all with target } rest

/-- The pieces of a filter that are not empty. -/
def pieces (s : String) : List (List Char) := (splitAt ',' s.toList).filter fun p => !p.isEmpty

/-- The directives of a filter, all of which must read. -/
def readAll (s : String) : Except DirectiveError (List Directive) := (pieces s).mapM readDirective

/-- The directives of a filter that read, and what is told of the others. -/
def readSome (s : String) : List Directive × List String :=
  (pieces s).foldr (fun piece (directives, complaints) =>
    match readDirective piece with
    | .ok d => (d :: directives, complaints)
    | .error e => (directives, s!"ignoring \x60{String.ofList piece}\x60: {e.message}" :: complaints)) ([], [])

/-! ### Deciding -/

/-- A directive that needs no span to hold. -/
def Directive.isStatic (d : Directive) : Bool := d.span.isNone && d.field.all fun f => f.2.isNone

/-- A directive fits an entry if the entry's target begins with its target and the entry has its field. -/
def Directive.fits (d : Directive) (e : LogEntry) : Bool :=
  (d.target.all fun target => target.isPrefixOf e.component.target) &&
    d.field.all fun f => f.1 = "message" || e.fields.any fun g => g.1 = f.1

/-- How specific a target is: by its length. -/
def Directive.targetWeight (d : Directive) : Nat := (d.target.map fun t => t.utf8ByteSize + 1).getD 0

/-- The first directive is at least as specific as the second, which fits the same entry: its target is longer,
    or it has a field and the other one has none. Of two fields the one that is later in the alphabet wins. -/
def Directive.atLeast (d e : Directive) : Bool :=
  if d.targetWeight = e.targetWeight then
    match d.field, e.field with
    | _, none => true
    | none, some _ => false
    | some f, some g => !decide (f.1 < g.1)
  else e.targetWeight < d.targetWeight

/-- The directive that decides about an entry; of equally specific ones it is the last. -/
def decider (directives : List Directive) (e : LogEntry) : Option Directive :=
  (directives.filter fun d => d.isStatic && d.fits e).foldl (fun best d =>
    match best with
    | none => some d
    | some b => if d.atLeast b then some d else some b) none

/-- The directives that hold; where there are none, only errors are written. -/
def effective (directives : List Directive) : List Directive :=
  if directives.isEmpty then [⟨some .error, none, none, none⟩] else directives

/-- An entry is written if its level is one that the deciding directive lets through. -/
def admits (directives : List Directive) (e : LogEntry) : Bool :=
  match decider (effective directives) e with
  | some ⟨some level, _, _, _⟩ => level.rank ≤ e.level.rank
  | _ => false

/-- The directives that hold for a daemon: those of its environment if they are given and all of them read, or
    else those that the configuration gives as its log level; and what is told of those that do not read. -/
def choose (environment : Option String) (logLevel : String) : List Directive × List String :=
  match environment with
  | none => readSome logLevel
  | some s =>
    match readAll s with
    | .ok directives => (directives, [])
    | .error _ => readSome logLevel

end FrameSentry.LogFilter
