import FrameSentry.Toml.Statement

/-! A TOML document: the tree of tables that the statements of a text build. No key is given twice, a table
    is opened by a header only once, and a table that a dotted key made or led through is opened by none. -/

namespace FrameSentry.Toml

/-- What made a table: only steps of headers' paths so far, also a step of a dotted key, or a header of its
    own. -/
inductive Origin where
  | implicit
  | dotted
  | explicit
deriving DecidableEq, Repr

/-- What stands at a key while a document is built. The last table of an array of tables is still open. -/
inductive Node where
  | value (value : Value)
  | table (origin : Origin) (entries : List (String × Node))
  | tables (items : List (List (String × Node)))
deriving Repr

/-- The entries of a table. -/
abbrev Entries := List (String × Node)

namespace Entries

/-- Puts a node at a key, in the place of what stands there. -/
def put (key : String) (node : Node) : Entries → Entries
  | [] => [(key, node)]
  | (k, n) :: rest => if k = key then (key, node) :: rest else (k, n) :: put key node rest

/-- Changes the table at the end of a path. Tables that the path lacks are made on the way. A path leads
    through the last table of an array of tables, and through no value. The path of a dotted key leads through
    no table that has a header, and every other table on it counts as made by dotted keys from then on. -/
def alter (dotted : Bool) (change : Origin → Entries → Option Entries) :
    List String → Origin → Entries → Option Entries
  | [], origin, entries => change origin entries
  | key :: path, _, entries =>
    match entries.lookup key with
    | none => do
      let origin := if dotted then Origin.dotted else Origin.implicit
      let inner ← alter dotted change path origin []
      return entries.put key (.table origin inner)
    | some (.value _) => none
    | some (.tables items) => do
      let inner ← alter dotted change path .explicit (← items.getLast?)
      return entries.put key (.tables (items.dropLast ++ [inner]))
    | some (.table origin inner) => do
      if dotted && origin = .explicit then none
      else
        let origin := if dotted then Origin.dotted else origin
        let inner ← alter dotted change path origin inner
        return entries.put key (.table origin inner)

/-- A path without its last name, and that name. -/
def splitLast : List String → Option (List String × String)
  | [] => none
  | path@(_ :: _) => path.getLast?.map fun key => (path.dropLast, key)

/-- Gives a value to the key at the end of a path, which must be new. A path of several names ends in no
    table of an array of tables. -/
def give (path : List String) (value : Value) (entries : Entries) : Option Entries := do
  let (path, key) ← splitLast path
  let change (origin : Origin) (entries : Entries) : Option Entries :=
    if (!path.isEmpty && origin == .explicit) || (entries.lookup key).isSome then none
    else some (entries.put key (.value value))
  alter true change path .explicit entries

/-- Opens the table at the end of a path. It must be new, or only a step of other headers' paths so far. -/
def openTable (path : List String) (entries : Entries) : Option Entries := do
  let (path, key) ← splitLast path
  let change (_ : Origin) (entries : Entries) : Option Entries :=
    match entries.lookup key with
    | none => some (entries.put key (.table .explicit []))
    | some (.table .implicit inner) => some (entries.put key (.table .explicit inner))
    | some _ => none
  alter false change path .explicit entries

/-- Opens one more table of the array of tables at the end of a path. -/
def openNextTable (path : List String) (entries : Entries) : Option Entries := do
  let (path, key) ← splitLast path
  let change (_ : Origin) (entries : Entries) : Option Entries :=
    match entries.lookup key with
    | none => some (entries.put key (.tables [[]]))
    | some (.tables items) => some (entries.put key (.tables (items ++ [[]])))
    | some _ => none
  alter false change path .explicit entries

end Entries

/-! ### From nodes to values -/

mutual

def Node.toValue : Node → Value
  | .value v => v
  | .table _ entries => .table (toValues entries)
  | .tables items => .array (tablesToValues items)

/-- The entries of a table, each with its value. -/
def toValues : List (String × Node) → List (String × Value)
  | [] => []
  | (key, node) :: rest => (key, node.toValue) :: toValues rest

def tablesToValues : List (List (String × Node)) → List Value
  | [] => []
  | entries :: rest => .table (toValues entries) :: tablesToValues rest

end

/-! ### From literals to values -/

/-- The table in braces that these entries write. -/
def braceTable (entries : List (List String × Value)) : Option Value :=
  (entries.foldlM (fun table (path, value) => Entries.give path value table) []).map fun table =>
    .table (toValues table)

mutual

/-- The value that a literal writes. Refused if a table in braces gives a key twice. -/
def Literal.resolve : Literal → Option Value
  | .scalar v => some v
  | .array items => (resolveAll items).map .array
  | .table entries => (resolveEntries entries).bind braceTable

def resolveAll : List Literal → Option (List Value)
  | [] => some []
  | item :: rest => do return (← item.resolve) :: (← resolveAll rest)

def resolveEntries : List (List String × Literal) → Option (List (List String × Value))
  | [] => some []
  | (path, literal) :: rest => do return (path, ← literal.resolve) :: (← resolveEntries rest)

end

/-! ### Documents -/

/-- A document while it is built: the path of the last header, and the entries so far. -/
structure Draft where
  current : List String
  entries : Entries

/-- Takes one more statement. A key stands in the table of the last header. -/
def Draft.add (d : Draft) : Statement → Option Draft
  | .header path => (d.entries.openTable path).map fun entries => ⟨path, entries⟩
  | .arrayHeader path => (d.entries.openNextTable path).map fun entries => ⟨path, entries⟩
  | .entry path literal => do
    let value ← literal.resolve
    let entries ← Entries.alter false (fun _ entries => entries.give path value) d.current .explicit d.entries
    return { d with entries }

/-- The entries at the top of the document that a text writes. -/
def parse (text : String) : Option (List (String × Value)) := do
  let draft ← (← statements text).foldlM Draft.add ⟨[], []⟩
  return toValues draft.entries

end FrameSentry.Toml
