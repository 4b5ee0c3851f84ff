import FrameSentry.Files.Walk

/-! What programs do with a tree of files through paths: they look at what is there, read it, make directories
    and files, and remove files. -/

namespace FrameSentry.Files

/-! ### Reading -/

/-- What stands at the end of a path, if anything does. -/
def look (fs : Files) (text : String) : Option FileNode :=
  match fs.resolve text with
  | .ok spot => spot.node?
  | .error _ => none

/-- The bytes of a file. -/
def read (fs : Files) (text : String) : Except FileError Bytes := do
  match (← fs.resolve text).node? with
  | none => .error .notFound
  | some (.directory _) => .error .isDirectory
  | some (.file _ content) => .ok content

/-- The text that bytes encode. -/
def decodeText (content : Bytes) : Except FileError String :=
  match String.fromUTF8? (ByteArray.mk content.toArray) with
  | some s => .ok s
  | none => .error .notText

/-- The text of a file. -/
def readText (fs : Files) (text : String) : Except FileError String := do
  decodeText (← fs.read text)

/-! ### Changing -/

/-- Makes one directory, which must be new. -/
def makeDirectory (fs : Files) (p : Path) (mode : Nat) : Except FileError Files := do
  match ← fs.lastStep p with
  | none => .error .exists
  | some (directory, name) =>
    let spot ← fs.enter directory name
    if spot.found.isSome then .error .exists
    fs.permit .makeDirectory
    return fs.put spot.place (.directory mode)

/-- The path leads to a directory. -/
def isDirectory (fs : Files) (p : Path) : Bool :=
  match p.check, fs.walk p.names p.start with
  | .ok (), .ok spot => spot.node?.any (·.isDirectory)
  | _, _ => false

/-- Makes one directory unless it is there. -/
def ensureDirectory (fs : Files) (p : Path) (mode : Nat) : Except FileError Unit × Files :=
  match fs.makeDirectory p mode with
  | .ok fs => (.ok (), fs)
  | .error e => (if fs.isDirectory p then .ok () else .error e, fs)

/-- Makes a directory and those that it lies in, unless they are there. The names that lead to it are in
    reverse. A name that is missing on the way makes the directories before it come first; they stay even if
    the rest fails. -/
def makeDirectories (fs : Files) (mode : Nat) : List String → Except FileError Unit × Files
  | [] => (.ok (), fs)
  | name :: before =>
    if Path.isIdle name then makeDirectories fs mode before
    else
      let p : Path := ⟨(name :: before).reverse⟩
      match fs.makeDirectory p mode with
      | .error .notFound =>
        match makeDirectories fs mode before with
        | (.error e, fs) => (.error e, fs)
        | (.ok (), fs) => fs.ensureDirectory p mode
      | _ => fs.ensureDirectory p mode

/-- Creates an empty file, which must be new, and tells its place. -/
def create (fs : Files) (text : String) (mode : Nat) : Except FileError (Place × Files) := do
  let p := Path.ofText text
  match ← fs.lastStep p with
  | none => .error .exists
  | some (directory, name) =>
    if p.endsWithSlash then .error .isDirectory
    let spot ← fs.enter directory name
    if spot.found.isSome then .error .exists
    fs.permit .create
    return (spot.place, fs.put spot.place (.file mode []))

/-- The tree with a node at the end of a path, and with the directories that it lies in. -/
def plant (fs : Files) (text : String) (node : FileNode) : Files :=
  let p := Path.ofText text
  let (_, fs) := fs.makeDirectories 0o755 p.namesAbove
  match fs.resolve text with
  | .ok spot => fs.put spot.place node
  | .error _ => fs

/-- Removes a file. -/
def remove (fs : Files) (text : String) : Except FileError Files := do
  let p := Path.ofText text
  match ← fs.lastStep p with
  | none => .error .isDirectory
  | some (directory, name) =>
    let spot ← fs.enter directory name
    match spot.node? with
    | none => .error .notFound
    | some (.directory _) => .error .isDirectory
    | some (.file _ _) =>
      if p.endsWithSlash then .error .notDirectory
      fs.permit .remove
      return fs.erase spot.place

/-- Sets the permissions of a file that is open. -/
def setMode (fs : Files) (p : Place) (mode : Nat) : Except FileError Files := do
  fs.permit .setMode
  match fs.node? p with
  | some (.file _ content) => return fs.put p (.file mode content)
  | _ => return fs

/-- Of bytes that are to be written from a position on, those in front of the first that the system refuses. -/
def accept (fs : Files) : Nat → Bytes → Except FileError Unit × Bytes
  | _, [] => (.ok (), [])
  | position, byte :: rest =>
    match fs.permit (.write position) with
    | .error e => (.error e, [])
    | .ok () =>
      let (result, written) := fs.accept (position + 1) rest
      (result, byte :: written)

/-- Appends bytes to a file that is open. A write that fails has appended what the system accepted. -/
def append (fs : Files) (p : Place) (bytes : Bytes) : Except FileError Unit × Files :=
  match fs.node? p with
  | some (.file mode content) =>
    let (result, written) := fs.accept content.length bytes
    (result, fs.put p (.file mode (content ++ written)))
  | _ => (.ok (), fs)

end FrameSentry.Files
