import FrameSentry.Frame.Cursor

/-! What a frame is taken for. A frame is classified if it is Ethernet carrying IPv4 carrying TCP or UDP,
    and each of the three headers lies inside the frame; nothing past the ports is examined. -/

namespace FrameSentry

/-- A transport protocol that has ports. -/
inductive Protocol where
  | tcp
  | udp
deriving DecidableEq, Repr

namespace Protocol

def name : Protocol → String
  | .tcp => "tcp"
  | .udp => "udp"

/-- The protocol's number in an IPv4 header. -/
def number : Protocol → UInt8
  | .tcp => 6
  | .udp => 17

def ofNumber? (n : UInt8) : Option Protocol :=
  if n = 6 then some .tcp else if n = 17 then some .udp else none

/-- The length of the protocol's fixed header. -/
def fixedHeader : Protocol → Nat
  | .tcp => TcpHeader.layout.size
  | .udp => UdpHeader.layout.size

end Protocol

/-- Who speaks to whom in a frame, and where its transport header begins. -/
structure ClassifiedFrame where
  protocol : Protocol
  source : Net.Ipv4
  destination : Net.Ipv4
  sourcePort : UInt16
  destinationPort : UInt16
  transportOffset : Nat
deriving DecidableEq, Repr

/-- What a frame is taken for. -/
inductive Classification where
  | truncated
  | unsupportedLinkType
  | unsupportedTransport
  | classified (frame : ClassifiedFrame)
deriving DecidableEq, Repr

namespace Classification

def name : Classification → String
  | .truncated => "truncated"
  | .unsupportedLinkType => "unsupported_link_type"
  | .unsupportedTransport => "unsupported_transport"
  | .classified _ => "classified"

def frame? : Classification → Option ClassifiedFrame
  | .classified frame => some frame
  | _ => none

end Classification

namespace Cursor

/-- The two ports of the transport header at the cursor. -/
def readPorts (c : Cursor) : Protocol → Option (UInt16 × UInt16)
  | .tcp => (c.read TcpHeader.layout).map fun (h, _) => (h.sourcePort, h.destinationPort)
  | .udp => (c.read UdpHeader.layout).map fun (h, _) => (h.sourcePort, h.destinationPort)

/-- The classification of a frame whose link and network headers are read: the cursor may stand
    anywhere, the transport header begins at `offset`. -/
def classifyTransport (c : Cursor) (ip : Ipv4Header) (offset : Nat) : Classification :=
  match Protocol.ofNumber? ip.protocol with
  | none => .unsupportedTransport
  | some protocol =>
    match (c.seek offset).bind fun c => c.readPorts protocol with
    | none => .truncated
    | some (sourcePort, destinationPort) =>
      .classified ⟨protocol, ip.source, ip.destination, sourcePort, destinationPort, offset⟩

/-- Reads the headers of a frame from its front, link by link. A header that cannot be read makes the
    frame truncated, and so does a network header shorter than its fixed part. -/
def classify (c : Cursor) : Classification :=
  match c.read Ethernet.layout with
  | none => .truncated
  | some (ethernet, c) =>
    if ethernet.etherType ≠ Ethernet.ipv4Type then .unsupportedLinkType
    else
      match c.read Ipv4Header.layout with
      | none => .truncated
      | some (ip, c) =>
        if ip.words < Ipv4Header.leastWords then .truncated
        else c.classifyTransport ip (Ethernet.layout.size + ip.headerLength)

end Cursor

/-- The classification of the first `limit` bytes of a frame in memory. -/
def Bytes.classifyWithin (data : Bytes) (limit : Nat) : Classification :=
  (Cursor.bounded (.ofBytes data) limit).classify

/-- The classification of a frame in memory. -/
def Bytes.classify (data : Bytes) : Classification := (Cursor.ofSource (.ofBytes data)).classify

end FrameSentry
