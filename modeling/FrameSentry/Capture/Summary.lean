import FrameSentry.Capture.Queue
import FrameSentry.Frame.Classification

/-! What the consumer learns from a captured frame: it is classified once more, from the captured bytes alone,
    and the length of its application data is reckoned from its length on the wire. -/

namespace FrameSentry

/-- What is learned from one event. The length of the application data is known only of a classified
    frame. -/
structure Summary where
  length : UInt32
  captured : Nat
  classification : Classification
  payloadLength : Option Nat
deriving DecidableEq, Repr

/-- The length of a frame's transport header: what the header says where it can be read, and never less than
    its fixed part. -/
def ClassifiedFrame.transportHeaderLength (frame : ClassifiedFrame) (payload : Bytes) : Nat :=
  match frame.protocol with
  | .udp => UdpHeader.layout.size
  | .tcp =>
    match ((Cursor.ofSource (.ofBytes payload)).seek frame.transportOffset).bind (·.read TcpHeader.layout) with
    | some (header, _) => max header.headerLength TcpHeader.layout.size
    | none => TcpHeader.layout.size

/-- Learns what an event holds. -/
def Event.summary (e : Event) : Summary :=
  let c := e.payload.classify
  { length := e.length
    captured := e.payload.length
    classification := c
    payloadLength := c.frame?.map fun frame =>
      e.length.toNat - (frame.transportOffset + frame.transportHeaderLength e.payload) }

end FrameSentry
