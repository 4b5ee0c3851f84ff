import FrameSentry.Bytes
import FrameSentry.Files.Path

/-! A tree of files: what stands at each place, and which operations the system refuses for a reason of its
    own. -/

namespace FrameSentry

/-- What can stand at a place: a file with its bytes, or a directory; each with its permissions. -/
inductive FileNode where
  | file (mode : Nat) (content : Bytes)
  | directory (mode : Nat)
deriving DecidableEq, Repr

namespace FileNode

def isDirectory : FileNode → Bool
  | .directory _ => true
  | .file _ _ => false

end FileNode

/-- An operation that changes files. A write is one operation for each byte, at the byte's position in the file. -/
inductive FileOperation where
  | makeDirectory
  | create
  | inspect
  | setMode
  | write (position : Nat)
  | remove
deriving DecidableEq, Repr

/-- A place: the names that lead to it from where a walk begins, the last one first. -/
structure Place where
  anchor : Anchor
  names : List String
deriving DecidableEq, Repr

/-- The entries of a directory. Each has its name, what stands there, and the entries below that, of which a
    file has none. -/
inductive FileTree where
  | empty
  | entry (name : String) (node : FileNode) (below rest : FileTree)
deriving DecidableEq, Repr

namespace FileTree

/-- The entry with a name. -/
def find? (name : String) : FileTree → Option (FileNode × FileTree)
  | .empty => none
  | .entry n node below rest => if n = name then some (node, below) else rest.find? name

/-- The tree without the entry with a name. -/
def drop (name : String) : FileTree → FileTree
  | .empty => .empty
  | .entry n node below rest => if n = name then rest.drop name else .entry n node below (rest.drop name)

/-- The tree with something else in an entry, or without that entry. -/
def set (name : String) (new : Option (FileNode × FileTree)) (t : FileTree) : FileTree :=
  match new with
  | some (node, below) => .entry name node below (t.drop name)
  | none => t.drop name

/-- What names lead to, one below the other. -/
def follow : List String → FileNode × FileTree → Option (FileNode × FileTree)
  | [], found => some found
  | name :: names, (_, below) => (below.find? name).bind (follow names)

/-- Changes the entries that names lead to, one below the other. -/
def alter (change : FileTree → FileTree) : List String → FileTree → FileTree
  | [], t => change t
  | name :: names, t =>
    match t.find? name with
    | some (node, below) => t.set name (some (node, alter change names below))
    | none => t

end FileTree

/-- What lies below each place that a walk can begin at, and which operations the system refuses. -/
structure Files where
  tops : List (Anchor × FileTree)
  refusals : List (FileOperation × FileError)
deriving DecidableEq, Repr

namespace Files

/-- An empty working directory. -/
def empty : Files := ⟨[], []⟩

/-- The entries of the directory that a walk begins at. -/
def top (fs : Files) (a : Anchor) : FileTree := (fs.tops.lookup a).getD .empty

/-- What stands at a place and below it, if anything does. A walk always begins at a directory. -/
def find? (fs : Files) (p : Place) : Option (FileNode × FileTree) :=
  FileTree.follow p.names.reverse (.directory 0o755, fs.top p.anchor)

/-- What stands at a place. -/
def node? (fs : Files) (p : Place) : Option FileNode := (fs.find? p).map (·.1)

/-- The tree with something else at a place, or with nothing there. -/
def set (fs : Files) (p : Place) (new : Option (FileNode × FileTree)) : Files :=
  match p.names with
  | [] => fs
  | name :: above =>
    let top := (fs.top p.anchor).alter (·.set name new) above.reverse
    { fs with tops := (p.anchor, top) :: fs.tops.filter (·.1 != p.anchor) }

/-- The tree with a node at a place, in the place of what stands there. What lies below it stays. -/
def put (fs : Files) (p : Place) (node : FileNode) : Files :=
  fs.set p (some (node, ((fs.find? p).map (·.2)).getD .empty))

/-- The tree with nothing at a place. -/
def erase (fs : Files) (p : Place) : Files := fs.set p none

/-- Fails if the system refuses an operation. -/
def permit (fs : Files) (op : FileOperation) : Except FileError Unit :=
  match fs.refusals.lookup op with
  | some e => .error e
  | none => .ok ()

end Files
end FrameSentry
