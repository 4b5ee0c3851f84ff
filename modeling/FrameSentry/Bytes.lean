/-! Bytes as they stand in a frame or a record. A frame is a list of bytes; a number in it is read
    from the place it stands at, most significant byte first on the wire and least significant byte
    first in a kernel record. -/

namespace FrameSentry

/-- The bytes of a frame, a payload or a file. -/
abbrev Bytes := List UInt8

/-- Sizes and offsets are words of 64 bits; this is the first number that is not one. -/
def wordLimit : Nat := 1 <<< 64

/-- The sum of two words, if it is a word. -/
def checkedAdd (a b : Nat) : Option Nat := if a + b < wordLimit then some (a + b) else none

namespace Bytes

/-- The `count` bytes that begin at `offset`, or as many of them as there are. -/
def slice (b : Bytes) (offset count : Nat) : Bytes := (b.drop offset).take count

/-- The byte at place `i`, zero past the end. -/
def byteAt (b : Bytes) (i : Nat) : UInt8 := b.getD i 0

/-- The 16-bit number at place `i`, most significant byte first. -/
def word16At (b : Bytes) (i : Nat) : UInt16 :=
  UInt16.ofNat ((b.byteAt i).toNat * 256 + (b.byteAt (i + 1)).toNat)

/-- The 32-bit number at place `i`, most significant byte first. -/
def word32At (b : Bytes) (i : Nat) : UInt32 :=
  UInt32.ofNat ((b.word16At i).toNat * 65536 + (b.word16At (i + 2)).toNat)

/-- The 32-bit number in the first four bytes, least significant byte first. -/
def recordWord (b : Bytes) : UInt32 :=
  UInt32.ofNat ((b.byteAt 0).toNat + 256 * ((b.byteAt 1).toNat + 256 * ((b.byteAt 2).toNat +
    256 * (b.byteAt 3).toNat)))

/-- The four bytes of a 32-bit number, least significant byte first. -/
def ofRecordWord (n : UInt32) : Bytes :=
  [UInt8.ofNat n.toNat, UInt8.ofNat (n.toNat / 256), UInt8.ofNat (n.toNat / 65536),
    UInt8.ofNat (n.toNat / 16777216)]

@[simp] theorem length_ofRecordWord (n : UInt32) : (ofRecordWord n).length = 4 := rfl

/-- The four bytes of a number are read as that number, whatever follows them. -/
theorem recordWord_ofRecordWord (n : UInt32) (rest : Bytes) : (ofRecordWord n ++ rest).recordWord = n := by
  have hn := n.toNat_lt
  rw [← UInt32.toNat_inj]
  show (UInt32.ofNat ((UInt8.ofNat n.toNat).toNat + 256 * ((UInt8.ofNat (n.toNat / 256)).toNat +
    256 * ((UInt8.ofNat (n.toNat / 65536)).toNat + 256 * (UInt8.ofNat (n.toNat / 16777216)).toNat)))).toNat = n.toNat
  simp only [UInt32.toNat_ofNat', UInt8.toNat_ofNat']
  omega

/-- What stands at a place of a slice stands that much further on in the whole. -/
theorem byteAt_slice (b : Bytes) (offset : Nat) {count i : Nat} (hi : i < count) :
    (b.slice offset count).byteAt i = b.byteAt (offset + i) := by
  simp [byteAt, slice, List.getElem?_drop, hi]

theorem word16At_slice (b : Bytes) (offset : Nat) {count i : Nat} (hi : i + 1 < count) :
    (b.slice offset count).word16At i = b.word16At (offset + i) := by
  unfold word16At
  rw [byteAt_slice b offset (by omega), byteAt_slice b offset hi, Nat.add_assoc]

end Bytes
end FrameSentry
