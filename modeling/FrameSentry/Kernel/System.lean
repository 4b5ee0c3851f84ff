import FrameSentry.Kernel.Object
import FrameSentry.Kernel.Program

/-! The kernel that the engine works with: the maps of the object that is loaded, the programs that are
    linked, what waits for readers, and the trace of the calls that succeeded. Each load of an object comes
    with a ring and a socket of its own, which a reader may keep when another object is loaded. -/

namespace FrameSentry

/-- Where a program is linked: to the packets that come in or go out through an interface, or to a socket. -/
inductive AttachPoint where
  | ingress (interface : String)
  | egress (interface : String)
  | socket
deriving DecidableEq, Repr

/-- The way of a packet past an interface. -/
inductive Direction where
  | ingress
  | egress
deriving DecidableEq, Repr

namespace AttachPoint

/-- A program that is linked here sees the packets of a direction; one at a socket sees all. -/
def sees : AttachPoint → Direction → Bool
  | .ingress _, d => d = .ingress
  | .egress _, d => d = .egress
  | .socket, _ => true

end AttachPoint

/-- A program that runs on packets. -/
structure Link where
  program : Program
  point : AttachPoint
deriving DecidableEq, Repr

/-- A call that succeeded. -/
inductive KernelEvent where
  | loadObject (path : String) (watchMapSize ringSize : Nat)
  | initLogger
  | insertPort (port : UInt16) (value flags : Nat)
  | addQdisc (interface : String)
  | loadProgram (program : Program)
  | attach (program : Program) (point : AttachPoint)
  | unloadObject
deriving DecidableEq, Repr

/-- What waits at a socket: a frame, or the reason why a call to receive one is going to fail. -/
inductive Incoming where
  | frame (data : Bytes)
  | failure (reason : String)
deriving DecidableEq, Repr

/-- What a reader takes from: a ring, and what waits at a socket. -/
structure Outlet where
  ring : Ring
  inbox : List Incoming
deriving DecidableEq, Repr

/-- The state of the kernel. The object that was loaded last is kept when it is given up; of those before there are
    the outlets, in the order of the loads. -/
structure Kernel where
  object : Option Object
  faults : List (KernelCall × String)
  loaded : Bool
  watchMapSize : Nat
  maps : KernelMaps
  links : List Link
  inbox : List Incoming
  former : List Outlet
  trace : List KernelEvent
deriving DecidableEq, Repr

/-- What a linked program did with a packet: the value that it returned, and for a filter whether anything of
    the packet was delivered. -/
structure LinkAnswer where
  program : Program
  value : Int
  delivered : Option Bool
deriving DecidableEq, Repr

namespace Kernel

/-- A kernel in which nothing is loaded. -/
def idle : Kernel :=
  { object := none, faults := [], loaded := false, watchMapSize := 0, maps := .create 0 0, links := [], inbox := []
    former := [], trace := [] }

def note (k : Kernel) (e : KernelEvent) : Kernel := { k with trace := k.trace ++ [e] }

/-- Why a call fails, if it does. -/
def fault? (k : Kernel) (c : KernelCall) : Option String := k.faults.lookup c

/-- From now on a call fails for a reason, or it works again. -/
def disturb (k : Kernel) (c : KernelCall) (reason : Option String) : Kernel :=
  { k with
    faults := match reason with
      | some reason => (c, reason) :: k.faults
      | none => k.faults.filter fun fault => fault.1 ≠ c }

/-- A call that is traced if it succeeds. -/
def call (k : Kernel) (c : KernelCall) (e : KernelEvent) : Except String Kernel :=
  match k.fault? c with
  | some reason => .error reason
  | none => .ok (k.note e)

/-! ### Outlets -/

/-- How many objects have been loaded. -/
def loads (k : Kernel) : Nat := k.former.length

/-- The outlet of a load. That of the last one is in use. -/
def outlet (k : Kernel) (load : Nat) : Outlet := k.former.getD load ⟨k.maps.ring, k.inbox⟩

/-- Each load with another outlet. -/
def withOutlets (k : Kernel) (outlets : Nat → Outlet) : Kernel :=
  { k with
    maps := { k.maps with ring := (outlets k.loads).ring }
    inbox := (outlets k.loads).inbox
    former := (List.range k.loads).map outlets }

/-- One load with another outlet. -/
def setOutlet (k : Kernel) (load : Nat) (o : Outlet) : Kernel :=
  k.withOutlets fun n => if n = load then o else k.outlet n

/-! ### Loading -/

/-- Loads an object. Its maps are empty, there are counters for each processor, the ring has the size that is asked
    for, and nothing is linked. The log goes on. -/
def load (k : Kernel) (path : String) (o : Object) (processors watchMapSize ringSize : Nat) : Kernel :=
  { object := some o
    faults := o.faults
    loaded := true
    watchMapSize
    maps := { KernelMaps.create processors ringSize with log := k.maps.log }
    links := []
    inbox := []
    former := k.former ++ [⟨k.maps.ring, k.inbox⟩]
    trace := k.trace ++ [.loadObject path watchMapSize ringSize] }

/-- Gives the object up: its programs are no longer linked. -/
def unload (k : Kernel) : Kernel := { k with loaded := false, links := [] }.note .unloadObject

def initLogger (k : Kernel) : Except String Kernel := k.call .initLogger .initLogger

/-- Puts a port into the map of watched ports. -/
def insertPort (k : Kernel) (port : UInt16) : Except String Kernel := do
  let k ← k.call (.insertPort port) (.insertPort port 1 0)
  return { k with maps := { k.maps with watched := k.maps.watched ++ [port] } }

def addQdisc (k : Kernel) (interface : String) : Except String Kernel :=
  k.call (.addQdisc interface) (.addQdisc interface)

def loadProgram (k : Kernel) (p : Program) : Except String Kernel :=
  k.call (.loadProgram p.name) (.loadProgram p)

/-- Links a program; from here on it runs on packets. -/
def attach (k : Kernel) (p : Program) (point : AttachPoint) : Except String Kernel := do
  let k ← k.call (.attachProgram p.name) (.attach p point)
  return { k with links := k.links ++ [⟨p, point⟩] }

/-- Why the map of a name cannot be used as one of a type. -/
def mapFault (k : Kernel) (name type : String) : Option String := k.object.bind fun o => o.mapFault name type

/-- Why a program cannot be used. -/
def programFault (k : Kernel) (p : Program) : Option String := k.object.bind fun o => o.programFault p.name p.type

/-! ### Packets -/

/-- The number of bytes of a packet's data that a filter keeps: its value as a word of 32 bits. -/
def kept (value : Int) (data : Bytes) : Bytes := data.take (value % 4294967296).toNat

/-- Runs one linked program on a packet. What a filter keeps of it waits at the socket. -/
def runLink (k : Kernel) (packet : Frame) (cpu : Nat) (l : Link) : LinkAnswer × Kernel :=
  let (value, maps) := k.maps.run l.program packet cpu
  let k := { k with maps }
  match l.point with
  | .socket =>
    if value = 0 then (⟨l.program, value, some false⟩, k)
    else (⟨l.program, value, some true⟩, { k with inbox := k.inbox ++ [.frame (kept value packet.data)] })
  | _ => (⟨l.program, value, none⟩, k)

/-- Runs linked programs on a packet, in the order in which they were linked. -/
def runLinks (packet : Frame) (cpu : Nat) : List Link → Kernel → List LinkAnswer × Kernel
  | [], k => ([], k)
  | l :: rest, k =>
    let (answer, k) := k.runLink packet cpu l
    let (answers, k) := runLinks packet cpu rest k
    (answer :: answers, k)

/-- A packet passes in a direction. -/
def inject (k : Kernel) (packet : Frame) (d : Direction) (cpu : Nat) : List LinkAnswer × Kernel :=
  runLinks packet cpu (k.links.filter fun l => l.point.sees d) k

/-- No filter is linked to the socket of a load. -/
def unfiltered (k : Kernel) (load : Nat) : Bool := load ≠ k.loads || k.links.all fun l => l.point ≠ .socket

/-- A packet reaches the sockets that are open and have no filter: the whole of it waits there. -/
def overhear (k : Kernel) (opened : Nat → Bool) (data : Bytes) : Kernel :=
  k.withOutlets fun load =>
    let o := k.outlet load
    if opened load && k.unfiltered load then { o with inbox := o.inbox ++ [.frame data] } else o

/-- A call to receive from the socket of a load is going to fail. -/
def failSocket (k : Kernel) (load : Nat) (reason : String) : Kernel :=
  let o := k.outlet load
  k.setOutlet load { o with inbox := o.inbox ++ [.failure reason] }

/-- Puts a raw sample into the ring. -/
def sample (k : Kernel) (bytes : Bytes) : Kernel :=
  { k with maps := { k.maps with ring := k.maps.ring.push bytes } }

/-- The values of a counter on all processors, or why they cannot be read. -/
def readCounter (k : Kernel) (o : Outcome) : Except String (List UInt64) :=
  match k.fault? (.readCounter o.index) with
  | some reason => .error reason
  | none => .ok (k.maps.counters.map fun c => c.get o)

end Kernel
end FrameSentry
