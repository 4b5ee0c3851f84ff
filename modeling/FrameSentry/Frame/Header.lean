import FrameSentry.Bytes
import FrameSentry.Net.Address

/-! The fixed headers of a frame: Ethernet, IPv4, TCP and UDP. Each has a size and is read from exactly
    that many bytes; every number in it stands most significant byte first. -/

namespace FrameSentry

/-- How a header lies in bytes: how many it takes, and what it is when they are given. -/
structure Layout (α : Type) where
  size : Nat
  decode : Bytes → α

/-- The Ethernet header: two hardware addresses and what follows them. -/
structure Ethernet where
  destination : Bytes
  source : Bytes
  etherType : UInt16
deriving DecidableEq, Repr

/-- The fixed part of an IPv4 header. The first byte holds the version and the length in words. -/
structure Ipv4Header where
  versionAndLength : UInt8
  typeOfService : UInt8
  totalLength : UInt16
  identification : UInt16
  fragment : UInt16
  timeToLive : UInt8
  protocol : UInt8
  checksum : UInt16
  source : Net.Ipv4
  destination : Net.Ipv4
deriving DecidableEq, Repr

/-- The fixed part of a TCP header. The high half of `dataOffset` is the length in words. -/
structure TcpHeader where
  sourcePort : UInt16
  destinationPort : UInt16
  sequence : UInt32
  acknowledgement : UInt32
  dataOffset : UInt8
  flags : UInt8
  window : UInt16
  checksum : UInt16
  urgent : UInt16
deriving DecidableEq, Repr

/-- The UDP header. -/
structure UdpHeader where
  sourcePort : UInt16
  destinationPort : UInt16
  length : UInt16
  checksum : UInt16
deriving DecidableEq, Repr

/-- The address in the four bytes at place `i`. -/
def Bytes.ipv4At (b : Bytes) (i : Nat) : Net.Ipv4 :=
  ⟨b.byteAt i, b.byteAt (i + 1), b.byteAt (i + 2), b.byteAt (i + 3)⟩

namespace Ethernet

def layout : Layout Ethernet where
  size := 14
  decode b := ⟨b.slice 0 6, b.slice 6 6, b.word16At 12⟩

/-- What `etherType` holds before an IPv4 header. -/
def ipv4Type : UInt16 := 0x0800

end Ethernet

namespace Ipv4Header

def layout : Layout Ipv4Header where
  size := 20
  decode b :=
    { versionAndLength := b.byteAt 0
      typeOfService := b.byteAt 1
      totalLength := b.word16At 2
      identification := b.word16At 4
      fragment := b.word16At 6
      timeToLive := b.byteAt 8
      protocol := b.byteAt 9
      checksum := b.word16At 10
      source := b.ipv4At 12
      destination := b.ipv4At 16 }

def version (h : Ipv4Header) : Nat := h.versionAndLength.toNat / 16

/-- The length in words of four bytes, options included. -/
def words (h : Ipv4Header) : Nat := h.versionAndLength.toNat % 16

/-- The length in bytes, options included. -/
def headerLength (h : Ipv4Header) : Nat := h.words * 4

/-- A header without options has this many words; none has fewer. -/
def leastWords : Nat := 5

end Ipv4Header

namespace TcpHeader

def layout : Layout TcpHeader where
  size := 20
  decode b :=
    { sourcePort := b.word16At 0
      destinationPort := b.word16At 2
      sequence := b.word32At 4
      acknowledgement := b.word32At 8
      dataOffset := b.byteAt 12
      flags := b.byteAt 13
      window := b.word16At 14
      checksum := b.word16At 16
      urgent := b.word16At 18 }

/-- The length in bytes, options included. -/
def headerLength (h : TcpHeader) : Nat := h.dataOffset.toNat / 16 * 4

end TcpHeader

namespace UdpHeader

def layout : Layout UdpHeader where
  size := 8
  decode b := ⟨b.word16At 0, b.word16At 2, b.word16At 4, b.word16At 6⟩

end UdpHeader
end FrameSentry
