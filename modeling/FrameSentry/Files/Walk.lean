import FrameSentry.Files.Tree

/-! Walks: from where a path begins to where it leads, one name after the other. Every name but the last must be
    that of a directory, and so must be what a slash or a dot follows. -/

namespace FrameSentry.Files

/-- Where a walk is: what stands there and below it, if anything does, and how the walk came there from where
    it began: the names and the directories that hold them, the last one first. -/
structure Spot where
  anchor : Anchor
  trail : List (String × FileNode × FileTree)
  found : Option (FileNode × FileTree)
deriving DecidableEq, Repr

namespace Spot

/-- The place where a walk is. -/
def place (s : Spot) : Place := ⟨s.anchor, s.trail.map (·.1)⟩

/-- What stands where a walk is. -/
def node? (s : Spot) : Option FileNode := s.found.map (·.1)

end Spot

/-- A walk that begins. -/
def begin (fs : Files) (a : Anchor) : Spot := ⟨a, [], some (.directory 0o755, fs.top a)⟩

/-- A step of a walk to the directory above. -/
def ascend (fs : Files) (s : Spot) : Spot :=
  match s.trail with
  | (_, directory) :: trail => { s with trail, found := some directory }
  | [] => fs.begin s.anchor.parent

/-- One step of a walk: from a directory to what a name in it stands for, which need not be there. -/
def enter (fs : Files) (s : Spot) (name : String) : Except FileError Spot :=
  match s.found with
  | none => .error .notFound
  | some (.file _ _, _) => .error .notDirectory
  | some (.directory mode, below) =>
    if Path.isIdle name then .ok s
    else if name = ".." then .ok (fs.ascend s)
    else if Path.nameLimit < name.utf8ByteSize then .error .nameTooLong
    else .ok { s with trail := (name, .directory mode, below) :: s.trail, found := below.find? name }

/-- Walks through names, one after the other. -/
def walk (fs : Files) (names : List String) (start : Anchor) : Except FileError Spot :=
  names.foldlM fs.enter (fs.begin start)

/-- Where a path leads to. -/
def resolve (fs : Files) (text : String) : Except FileError Spot := do
  let p := Path.ofText text
  p.check
  fs.walk p.names p.start

/-- The directory in which the last name of a path is looked up, and that name. There is none if the path ends
    in dots or is the root: such a path leads to a directory. -/
def lastStep (fs : Files) (p : Path) : Except FileError (Option (Spot × String)) := do
  p.check
  match p.trimmed.getLast? with
  | none => return none
  | some name =>
    let directory ← fs.walk (p.trimmed.dropLast ++ ["."]) p.start
    return if name = "." || name = ".." then none else some (directory, name)

end FrameSentry.Files
