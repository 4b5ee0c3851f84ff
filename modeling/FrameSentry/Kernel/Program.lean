import FrameSentry.Hook
import FrameSentry.Kernel.Ring
import FrameSentry.Telemetry

/-! The programs that run in the kernel on each packet. All of them classify the packet, match it against the
    map of watched ports and count the outcome on the processor that they run on. The filter lets matching
    packets through to a socket; the two observers copy matching packets into the ring and leave the traffic
    alone. -/

namespace FrameSentry

/-- What the programs read and write: the map of watched ports, the counters of each processor, the ring, and
    their log. -/
structure KernelMaps where
  watched : List UInt16
  counters : List Counters
  ring : Ring
  log : List (Level × String)
deriving DecidableEq, Repr

/-- A program of the kernel. -/
inductive Program where
  | portFilter
  | tcIngress
  | tcEgress
deriving DecidableEq, Repr

namespace Program

def name : Program → String
  | portFilter => "port_filter"
  | tcIngress => "tc_ingress"
  | tcEgress => "tc_egress"

/-- The type that the program must have in an object. -/
def type : Program → String
  | portFilter => "socket_filter"
  | tcIngress => "classifier"
  | tcEgress => "classifier"

end Program

/-- The bytes of a packet as the kernel gives them: it declares its length, and loads only from its data. -/
def Frame.source (f : Frame) : Source := .packet f.data f.length.toNat

namespace KernelMaps

/-- Empty maps of a kernel with some processors, with a ring of a size. -/
def create (processors ringSize : Nat) : KernelMaps :=
  { watched := [], counters := List.replicate processors .zero, ring := .create ringSize, log := [] }

/-- Counts an outcome on a processor. -/
def bump (m : KernelMaps) (cpu : Nat) (o : Outcome) : KernelMaps :=
  { m with counters := m.counters.modify cpu fun c => c.bump o }

/-- Writes a line into the log. -/
def tell (m : KernelMaps) (level : Level) (text : String) : KernelMaps :=
  { m with log := m.log ++ [(level, text)] }

/-- The line that tells of a matching packet. -/
def matchText (f : ClassifiedFrame) : String :=
  s!"match proto={f.protocol.number.toNat} {f.source.text}:{f.sourcePort.toNat} -> " ++
    s!"{f.destination.text}:{f.destinationPort.toNat}"

/-- What the kernel takes a packet for. -/
def classify (packet : Frame) : Classification := (Cursor.ofSource packet.source).classify

/-- Classifies and matches a packet, and counts the outcome. -/
def judge (m : KernelMaps) (packet : Frame) (cpu : Nat) : Bool × KernelMaps :=
  match classify packet with
  | .classified f =>
    if f.matchesPorts m.watched then (true, (m.bump cpu .matched).tell .info (matchText f))
    else (false, m.bump cpu .noMatch)
  | c =>
    (false, match c.failure? with
      | some o => m.bump cpu o
      | none => m)

/-- Copies a packet into the ring, if a whole record can be reserved and the packet's data can be copied. -/
def record (m : KernelMaps) (packet : Frame) (cpu : Nat) : KernelMaps :=
  let length := packet.length.toNat
  let n := min length Record.captureLimit
  if !m.ring.fits Record.size then
    (m.bump cpu .reserveFailed).tell .warn s!"capture ring buffer full, len={length}"
  else if packet.data.length < n then
    (m.bump cpu .copyFailed).tell .warn s!"capture copy failed, len={length} copy_len={n}"
  else
    let ring := m.ring.push (Record.encode packet.length (packet.data.take n))
    ({ m with ring }.bump cpu .captured).tell .debug s!"captured frame len={length} copied={n}"

/-- Runs an observer on a packet. -/
def observe (m : KernelMaps) (packet : Frame) (cpu : Nat) : KernelMaps :=
  match m.judge packet cpu with
  | (true, m) => m.record packet cpu
  | (false, m) => m

/-- Runs the filter on a packet. -/
def filter (m : KernelMaps) (packet : Frame) (cpu : Nat) : Verdict × KernelMaps :=
  match m.judge packet cpu with
  | (true, m) => (.accept, m)
  | (false, m) => (.reject, m)

/-- Runs a program on a packet, with the value that it returns. An observer always returns zero, which leaves
    the traffic alone. -/
def run (m : KernelMaps) (program : Program) (packet : Frame) (cpu : Nat) : Int × KernelMaps :=
  match program with
  | .portFilter => let (verdict, m) := m.filter packet cpu; (verdict.filterCode, m)
  | .tcIngress | .tcEgress => (0, m.observe packet cpu)

/-- Takes the oldest record out of the ring. -/
def readRing (m : KernelMaps) : Option Bytes × KernelMaps :=
  match m.ring.next? with
  | none => (none, m)
  | some (record, ring) => (some record, { m with ring })

end KernelMaps
end FrameSentry
