import FrameSentry.Bytes

/-! Capture records: how the kernel hands a frame over. A record is the frame's length as a 32-bit number,
    least significant byte first, and then room for the frame's bytes. -/

namespace FrameSentry.Record

/-- No more than this many bytes of a frame are captured. -/
def captureLimit : Nat := 65535

/-- The bytes of the length in front of the frame. -/
def headerSize : Nat := 4

/-- A record as the kernel writes it: the length, room for the most bytes of a frame, and one byte that
    rounds the size up to a multiple of four. -/
def size : Nat := headerSize + captureLimit + 1

/-- A limit on captured bytes is at least one and at most what a record has room for. -/
def clampCapture (limit : Nat) : Nat := max 1 (min limit captureLimit)

/-- The length that a record declares and its payload: as many bytes after the length as it declares, as a
    record has room for, and as there are. Fewer than four bytes are no record. -/
def decode (sample : Bytes) : Option (UInt32 × Bytes) :=
  if sample.length < headerSize then none
  else
    let length := sample.recordWord
    some (length, (sample.drop headerSize).take (min length.toNat captureLimit))

/-- The record of a frame of `length` bytes of which `payload` is copied; the rest of the room is zero. -/
def encode (length : UInt32) (payload : Bytes) : Bytes :=
  Bytes.ofRecordWord length ++ payload ++ List.replicate (size - headerSize - payload.length) 0

/-- Every record of the kernel has the same size. -/
theorem length_encode (length : UInt32) {payload : Bytes} (hp : payload.length ≤ captureLimit) :
    (encode length payload).length = size := by
  simp only [encode, List.length_append, Bytes.length_ofRecordWord, List.length_replicate, size, headerSize]
  omega

/-- A record tells the length and the payload that it was made of, if the payload is as much of the frame as
    a record can hold. -/
theorem decode_encode (length : UInt32) {payload : Bytes} (hp : payload.length = min length.toNat captureLimit) :
    decode (encode length payload) = some (length, payload) := by
  have hlength : (encode length payload).length = size := length_encode length (by omega)
  have hword : (encode length payload).recordWord = length := by
    rw [encode, List.append_assoc, Bytes.recordWord_ofRecordWord]
  have hrest : (encode length payload).drop headerSize =
      payload ++ List.replicate (size - headerSize - payload.length) 0 := by
    rw [encode, List.append_assoc]
    exact List.drop_left' rfl
  unfold decode
  rw [if_neg (by rw [hlength]; decide), hword, hrest]
  show some (length, List.take (min length.toNat captureLimit) _) = _
  rw [← hp, List.take_left' rfl]

theorem clampCapture_le (limit : Nat) : clampCapture limit ≤ captureLimit := by
  unfold clampCapture captureLimit
  omega

end FrameSentry.Record
