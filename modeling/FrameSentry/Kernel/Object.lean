import FrameSentry.Bytes

/-! Kernel objects: the maps and programs that are loaded together, each of a type, and the calls to the
    kernel that are to fail. -/

namespace FrameSentry

/-- A call to the kernel that can fail. -/
inductive KernelCall where
  | initLogger
  | insertPort (port : UInt16)
  | addQdisc (interface : String)
  | loadProgram (name : String)
  | attachProgram (name : String)
  | readCounter (index : Nat)
  | watchRing
  | waitRing
  | watchSocket
  | waitSocket
deriving DecidableEq, Repr

/-- An object: its maps and its programs by name, each with its type, and the calls that fail, each with its
    reason. -/
structure Object where
  maps : List (String × String)
  programs : List (String × String)
  faults : List (KernelCall × String)
deriving DecidableEq, Repr

namespace Object

def watchedPorts : String := "WATCHED_PORTS"
def statistics : String := "STATS"
def events : String := "EVENTS"

/-- The maps of an object that is complete. -/
def standardMaps : List (String × String) :=
  [(watchedPorts, "hash"), (statistics, "percpu_array"), (events, "ringbuf")]

/-- The programs of an object that is complete. -/
def standardPrograms : List (String × String) :=
  [("port_filter", "socket_filter"), ("tc_ingress", "classifier"), ("tc_egress", "classifier")]

/-- A complete object. -/
def standard : Object := ⟨standardMaps, standardPrograms, []⟩

/-- Why the map of a name cannot be used as one of a type. -/
def mapFault (o : Object) (name type : String) : Option String :=
  match o.maps.lookup name with
  | none => some s!"map '{name}' not found"
  | some found => if found = type then none else some s!"{name}: map type is {found}"

/-- Why the program of a name cannot be used as one of a type. -/
def programFault (o : Object) (name type : String) : Option String :=
  match o.programs.lookup name with
  | none => some s!"program '{name}' not found"
  | some found => if found = type then none else some s!"{name}: program type is {found}"

end Object
end FrameSentry
