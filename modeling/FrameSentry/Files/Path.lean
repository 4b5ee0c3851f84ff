import FrameSentry.Text.Blank

/-! Paths: texts with slashes between the names in them. A path is checked as a whole before any of its names is
    looked at. -/

namespace FrameSentry

/-- Why an operation on files fails. -/
inductive FileError where
  | notPermitted
  | notFound
  | exists
  | notDirectory
  | isDirectory
  | nameTooLong
  | embeddedNul
  | notText
deriving DecidableEq, Repr

def FileError.message : FileError → String
  | .notPermitted => "Operation not permitted (os error 1)"
  | .notFound => "No such file or directory (os error 2)"
  | .exists => "File exists (os error 17)"
  | .notDirectory => "Not a directory (os error 20)"
  | .isDirectory => "Is a directory (os error 21)"
  | .nameTooLong => "File name too long (os error 36)"
  | .embeddedNul => "file name contained an unexpected NUL byte"
  | .notText => "stream did not contain valid UTF-8"

/-- Where a walk begins: at the root, or so many directories above the working directory. -/
inductive Anchor where
  | root
  | working (above : Nat)
deriving DecidableEq, Repr

/-- The directory that the beginning of a walk lies in. The root lies in itself. -/
def Anchor.parent : Anchor → Anchor
  | .root => .root
  | .working above => .working (above + 1)

/-- A path, as the texts between its slashes. -/
structure Path where
  names : List String
deriving DecidableEq, Repr

namespace Path

/-- No name is longer than this many bytes. -/
def nameLimit : Nat := 255

/-- No path is as long as this many bytes. -/
def sizeLimit : Nat := 4096

/-- An empty name and a single dot lead nowhere. -/
def isIdle (name : String) : Bool := name = "" || name = "."

def ofText (text : String) : Path := ⟨(splitAt '/' text.toList).map String.ofList⟩

/-- A path with a slash at its front begins at the root. -/
def start (p : Path) : Anchor :=
  match p.names with
  | "" :: _ :: _ => .root
  | _ => .working 0

/-- The number of bytes that write the path. -/
def size (p : Path) : Nat := p.names.foldr (fun name n => name.utf8ByteSize + n) 0 + (p.names.length - 1)

/-- What the system asks of a path before it is walked. -/
def check (p : Path) : Except FileError Unit :=
  if p.names.any fun name => name.toList.contains '\x00' then .error .embeddedNul
  else if p.size = 0 then .error .notFound
  else if sizeLimit ≤ p.size then .error .nameTooLong
  else .ok ()

/-- The names without the empty ones at the end, which stand for slashes that end the path. -/
def trimmed (p : Path) : List String := (p.names.reverse.dropWhile (· == "")).reverse

/-- The path ends with a slash. -/
def endsWithSlash (p : Path) : Bool := p.names.getLast? == some ""

/-- The names before the last one that leads anywhere, the last one first. -/
def namesAbove (p : Path) : List String := (p.names.reverse.dropWhile isIdle).drop 1

end Path

end FrameSentry
