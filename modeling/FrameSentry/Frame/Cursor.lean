import FrameSentry.Frame.Header

/-! A cursor over the bytes of a frame. It reads headers one after another and never past its end. The
    bytes come from a source that tells its length and may still refuse to load what lies inside it, as
    a packet does whose declared length exceeds its data. -/

namespace FrameSentry

/-- Where the bytes of a frame come from: a declared length, and the bytes at an offset, or a refusal. -/
structure Source where
  size : Nat
  load : (offset count : Nat) → Option Bytes

namespace Source

/-- A packet declares `length` bytes and loads only from `data`. -/
def packet (data : Bytes) (length : Nat) : Source where
  size := length
  load offset count := if offset + count ≤ data.length then some (data.slice offset count) else none

/-- Bytes in memory declare their own number. -/
def ofBytes (data : Bytes) : Source := packet data data.length

end Source

/-- A place in a source, and the end that no read goes past. -/
structure Cursor where
  source : Source
  offset : Nat
  limit : Nat

namespace Cursor

/-- A cursor at the front of a source, bounded by its declared length. -/
def ofSource (source : Source) : Cursor := ⟨source, 0, source.size⟩

/-- A cursor at the front of a source, bounded by its declared length and by `limit`. -/
def bounded (source : Source) (limit : Nat) : Cursor := ⟨source, 0, min limit source.size⟩

/-- The bytes between the cursor and its end. -/
def remaining (c : Cursor) : Nat := c.limit - c.offset

/-- Reads one header and moves past it. Refused if it would end past the cursor's end, or if the source
    cannot load it. -/
def read {α : Type} (c : Cursor) (layout : Layout α) : Option (α × Cursor) :=
  match checkedAdd c.offset layout.size with
  | none => none
  | some next =>
    if c.limit < next then none
    else
      match c.source.load c.offset layout.size with
      | none => none
      | some bytes => some (layout.decode bytes, { c with offset := next })

/-- Moves to an offset, forward or backward, but not past the end. -/
def seek (c : Cursor) (offset : Nat) : Option Cursor :=
  if c.limit < offset then none else some { c with offset }

/-- In a packet a header is read if it ends within the cursor's end and within the packet's data. -/
theorem read_packet {α : Type} (data : Bytes) (size offset limit : Nat) (layout : Layout α)
    (hword : offset + layout.size < wordLimit) :
    (Cursor.mk (.packet data size) offset limit).read layout =
      if offset + layout.size ≤ min limit data.length then
        some (layout.decode (data.slice offset layout.size), ⟨.packet data size, offset + layout.size, limit⟩)
      else none := by
  unfold read checkedAdd
  by_cases hlimit : limit < offset + layout.size
  · rw [if_neg (show ¬offset + layout.size ≤ min limit data.length by omega)]
    simp [hword, hlimit]
  · by_cases hdata : offset + layout.size ≤ data.length
    · rw [if_pos (show offset + layout.size ≤ min limit data.length by omega)]
      simp [hword, hlimit, hdata, Source.packet]
    · rw [if_neg (show ¬offset + layout.size ≤ min limit data.length by omega)]
      simp [hword, hlimit, hdata, Source.packet]

end Cursor
end FrameSentry
