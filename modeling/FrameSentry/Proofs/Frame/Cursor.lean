import FrameSentry.Frame.Cursor

/-! The bounds of a cursor. Every operation either moves the cursor to a place within its end or is refused and leaves it
    where it is, so that a cursor that begins within its bounds stays there, whatever is read and wherever it is moved to.
    What it reads is what stands at its place: the fields of a header, put together again, are those bytes. -/

namespace FrameSentry

namespace Bytes
variable {b : Bytes} {i j m n : Nat}

/-- The two bytes of a number, most significant byte first. -/
def ofWord16 (w : UInt16) : Bytes := [UInt8.ofNat (w.toNat / 256), UInt8.ofNat w.toNat]

/-- The four bytes of a number, most significant byte first. -/
def ofWord32 (w : UInt32) : Bytes := ofWord16 (UInt16.ofNat (w.toNat / 65536)) ++ ofWord16 (UInt16.ofNat w.toNat)

def ofIpv4 (ip : Net.Ipv4) : Bytes := [ip.a, ip.b, ip.c, ip.d]

theorem slice_append (hj : i + m = j) : b.slice i m ++ b.slice j n = b.slice i (m + n) := by
  subst hj
  unfold slice
  rw [List.take_add, List.drop_drop]

theorem slice_all (h : b.length = n) : b.slice 0 n = b := by
  rw [slice, List.drop_zero, ← h, List.take_length]

theorem length_slice (h : i + n ≤ b.length) : (b.slice i n).length = n := by
  simp only [slice, List.length_take, List.length_drop]
  omega

theorem byteAt_eq_slice (h : i + 1 ≤ b.length) : [b.byteAt i] = b.slice i 1 := by
  have hi : i < b.length := h
  unfold slice byteAt
  rw [List.drop_eq_getElem_cons hi, List.take_succ_cons, List.take_zero, List.getD_eq_getElem?_getD,
    List.getElem?_eq_getElem hi]
  rfl

theorem bytes_eq_slice (h : i + 2 ≤ b.length) : [b.byteAt i, b.byteAt (i + 1)] = b.slice i 2 := by
  have hsplit : b.slice i 1 ++ b.slice (i + 1) 1 = b.slice i 2 := slice_append rfl
  rw [← hsplit, ← byteAt_eq_slice (by omega), ← byteAt_eq_slice h]
  rfl

theorem toNat_word16At (b : Bytes) (i : Nat) :
    (b.word16At i).toNat = (b.byteAt i).toNat * 256 + (b.byteAt (i + 1)).toNat := by
  have hhigh := (b.byteAt i).toNat_lt
  have hlow := (b.byteAt (i + 1)).toNat_lt
  rw [word16At, UInt16.toNat_ofNat']
  omega

theorem toNat_word32At (b : Bytes) (i : Nat) :
    (b.word32At i).toNat = (b.word16At i).toNat * 65536 + (b.word16At (i + 2)).toNat := by
  have hhigh := (b.word16At i).toNat_lt
  have hlow := (b.word16At (i + 2)).toNat_lt
  rw [word32At, UInt32.toNat_ofNat']
  omega

theorem ofWord16_word16At (h : i + 2 ≤ b.length) : ofWord16 (b.word16At i) = b.slice i 2 := by
  have hfirst := (b.byteAt i).toNat_lt
  have hsecond := (b.byteAt (i + 1)).toNat_lt
  have hhigh : UInt8.ofNat ((b.word16At i).toNat / 256) = b.byteAt i := by
    rw [← UInt8.toNat_inj, UInt8.toNat_ofNat', toNat_word16At]
    omega
  have hlow : UInt8.ofNat (b.word16At i).toNat = b.byteAt (i + 1) := by
    rw [← UInt8.toNat_inj, UInt8.toNat_ofNat', toNat_word16At]
    omega
  rw [← bytes_eq_slice h, ofWord16, hhigh, hlow]

theorem ofWord32_word32At (h : i + 4 ≤ b.length) : ofWord32 (b.word32At i) = b.slice i 4 := by
  have hfirst := (b.word16At i).toNat_lt
  have hsecond := (b.word16At (i + 2)).toNat_lt
  have hhigh : UInt16.ofNat ((b.word32At i).toNat / 65536) = b.word16At i := by
    rw [← UInt16.toNat_inj, UInt16.toNat_ofNat', toNat_word32At]
    omega
  have hlow : UInt16.ofNat (b.word32At i).toNat = b.word16At (i + 2) := by
    rw [← UInt16.toNat_inj, UInt16.toNat_ofNat', toNat_word32At]
    omega
  rw [ofWord32, hhigh, hlow, ofWord16_word16At (by omega), ofWord16_word16At h, slice_append rfl]

theorem ofIpv4_ipv4At (h : i + 4 ≤ b.length) : ofIpv4 (b.ipv4At i) = b.slice i 4 := by
  have hsplit : b.slice i 2 ++ b.slice (i + 2) 2 = b.slice i 4 := slice_append rfl
  rw [← hsplit, ← bytes_eq_slice (by omega), ← bytes_eq_slice h]
  rfl

end Bytes

/-! ### Headers -/

/-- The fields of a header, put together again, are the bytes that it was read from. -/
def Layout.Splits {α : Type} (layout : Layout α) (bytes : α → Bytes) : Prop :=
  ∀ b : Bytes, b.length = layout.size → bytes (layout.decode b) = b

open Bytes

def Ethernet.bytes (h : Ethernet) : Bytes := h.destination ++ h.source ++ ofWord16 h.etherType

def Ipv4Header.bytes (h : Ipv4Header) : Bytes :=
  [h.versionAndLength] ++ [h.typeOfService] ++ ofWord16 h.totalLength ++ ofWord16 h.identification ++
    ofWord16 h.fragment ++ [h.timeToLive] ++ [h.protocol] ++ ofWord16 h.checksum ++ ofIpv4 h.source ++
    ofIpv4 h.destination

def TcpHeader.bytes (h : TcpHeader) : Bytes :=
  ofWord16 h.sourcePort ++ ofWord16 h.destinationPort ++ ofWord32 h.sequence ++ ofWord32 h.acknowledgement ++
    [h.dataOffset] ++ [h.flags] ++ ofWord16 h.window ++ ofWord16 h.checksum ++ ofWord16 h.urgent

def UdpHeader.bytes (h : UdpHeader) : Bytes :=
  ofWord16 h.sourcePort ++ ofWord16 h.destinationPort ++ ofWord16 h.length ++ ofWord16 h.checksum

-- In each case the fields are slices, each beginning where the one before it ends.

theorem Ethernet.splits : layout.Splits bytes := by
  intro b hb
  have hb : b.length = 14 := hb
  simp (disch := omega) only [bytes, layout, ofWord16_word16At, slice_append]
  exact slice_all hb

theorem Ipv4Header.splits : layout.Splits bytes := by
  intro b hb
  have hb : b.length = 20 := hb
  simp (disch := omega) only [bytes, layout, byteAt_eq_slice, ofWord16_word16At, ofIpv4_ipv4At, slice_append]
  exact slice_all hb

theorem TcpHeader.splits : layout.Splits bytes := by
  intro b hb
  have hb : b.length = 20 := hb
  simp (disch := omega) only [bytes, layout, byteAt_eq_slice, ofWord16_word16At, ofWord32_word32At, slice_append]
  exact slice_all hb

theorem UdpHeader.splits : layout.Splits bytes := by
  intro b hb
  have hb : b.length = 8 := hb
  simp (disch := omega) only [bytes, layout, ofWord16_word16At, slice_append]
  exact slice_all hb

/-! ### Operations -/

namespace Source
variable {source : Source} {data : Bytes}

/-- What the source loads stands there in the data. It may refuse to load any of it. -/
def Serves (source : Source) (data : Bytes) : Prop :=
  ∀ offset count bytes, source.load offset count = some bytes →
    offset + count ≤ data.length ∧ bytes = data.slice offset count

theorem load_packet {length offset count : Nat} {bytes : Bytes} :
    (packet data length).load offset count = some bytes ↔
      offset + count ≤ data.length ∧ bytes = data.slice offset count := by
  simp only [packet]
  split
  · rename_i hle
    rw [Option.some.injEq, eq_comm, and_iff_right hle]
  · rename_i hlt
    exact iff_of_false (Option.some_ne_none _).symm fun h => hlt h.1

theorem serves_packet (data : Bytes) (length : Nat) : (packet data length).Serves data :=
  fun _ _ _ => load_packet.mp

end Source

namespace Cursor
variable {α : Type} {c c' : Cursor} {layout : Layout α} {x : α} {source : Source}

/-- A cursor at the front of a source, with the end of the source or with a declared one. -/
def opened (source : Source) : Option Nat → Cursor
  | none => ofSource source
  | some limit => bounded source limit

/-- What is done with a cursor: it reads a header, or it moves. -/
inductive Operation : Type 1 where
  | read {α : Type} (layout : Layout α)
  | seek (offset : Nat)

/-- Where an operation takes a cursor. -/
def Operation.target (op : Operation) (offset : Nat) : Nat :=
  match op with
  | .read layout => offset + layout.size
  | .seek target => target

/-- The cursor behind an operation, unless that is refused. -/
def after? (c : Cursor) : Operation → Option Cursor
  | .read layout => (c.read layout).map (·.2)
  | .seek offset => c.seek offset

/-- A cursor that is refused an operation stays as it is. -/
def perform (c : Cursor) (op : Operation) : Cursor := (c.after? op).getD c

def run (c : Cursor) (ops : List Operation) : Cursor := ops.foldl perform c

/-- The cursor is within its end, and that within the source. -/
structure Within (c : Cursor) (source : Source) (limit : Nat) : Prop where
  source_eq : c.source = source
  limit_eq : c.limit = limit
  offset_le : c.offset ≤ limit
  limit_le : limit ≤ source.size

/-- As long as the end is a word, only what ends behind it is refused, and what the source does not load. -/
theorem read_eq_some (hlimit : c.limit < wordLimit) : c.read layout = some (x, c') ↔
    c.offset + layout.size ≤ c.limit ∧ ∃ bytes, c.source.load c.offset layout.size = some bytes ∧
      x = layout.decode bytes ∧ c' = { c with offset := c.offset + layout.size } := by
  unfold read checkedAdd
  constructor
  · intro h
    split at h
    · cases h
    rename_i next hnext
    split at hnext <;> cases hnext
    split at h
    · cases h
    rename_i hle
    split at h <;> cases h
    rename_i bytes hload
    exact ⟨Nat.le_of_not_lt hle, bytes, hload, rfl, rfl⟩
  · rintro ⟨hle, bytes, hload, rfl, rfl⟩
    simp [Nat.lt_of_le_of_lt hle hlimit, Nat.not_lt.mpr hle, hload]

theorem seek_eq_some {target : Nat} :
    c.seek target = some c' ↔ target ≤ c.limit ∧ c' = { c with offset := target } := by
  unfold seek
  split
  · rename_i hlt
    exact iff_of_false (Option.some_ne_none _).symm fun h => Nat.not_le.mpr hlt h.1
  · rename_i hle
    rw [Option.some.injEq, eq_comm, and_iff_right (Nat.le_of_not_lt hle)]

/-- An operation moves the cursor to its target, or is refused. -/
theorem after?_eq_some (hlimit : c.limit < wordLimit) {op : Operation} (h : c.after? op = some c') :
    op.target c.offset ≤ c.limit ∧ c' = { c with offset := op.target c.offset } := by
  cases op with
  | read layout =>
    obtain ⟨⟨x, c'⟩, hread, rfl⟩ := Option.map_eq_some_iff.mp h
    obtain ⟨hle, -, -, -, rfl⟩ := (read_eq_some hlimit).mp hread
    exact ⟨hle, rfl⟩
  | seek target => exact seek_eq_some.mp h

/-- What is read of a source that serves data are the bytes at the cursor's place, split into fields. -/
theorem read_serves {data : Bytes} (hserves : c.source.Serves data) (hlimit : c.limit < wordLimit)
    (h : c.read layout = some (x, c')) :
    (data.slice c.offset layout.size).length = layout.size ∧ x = layout.decode (data.slice c.offset layout.size) ∧
      ∀ bytes, layout.Splits bytes → bytes x = data.slice c.offset layout.size := by
  obtain ⟨-, b, hload, rfl, -⟩ := (read_eq_some hlimit).mp h
  obtain ⟨hle, rfl⟩ := hserves _ _ _ hload
  have hlength := Bytes.length_slice hle
  exact ⟨hlength, rfl, fun bytes hsplits => hsplits _ hlength⟩

/-- A packet loads all that lies within its data. -/
theorem isSome_read_packet {data : Bytes} {length : Nat} (hpacket : c.source = .packet data length)
    (hlimit : c.limit < wordLimit) :
    (c.read layout).isSome ↔ c.offset + layout.size ≤ min c.limit data.length := by
  rw [Nat.le_min]
  constructor
  · intro h
    obtain ⟨⟨x, c'⟩, hread⟩ := Option.isSome_iff_exists.mp h
    obtain ⟨hle, b, hload, -⟩ := (read_eq_some hlimit).mp hread
    rw [hpacket, Source.load_packet] at hload
    exact ⟨hle, hload.1⟩
  · rintro ⟨hle, hdata⟩
    have hload : (Source.packet data length).load c.offset layout.size = some _ := Source.load_packet.mpr ⟨hdata, rfl⟩
    exact Option.isSome_of_eq_some ((read_eq_some hlimit).mpr ⟨hle, _, hpacket ▸ hload, rfl, rfl⟩)

/-! ### Runs -/

theorem within_opened (source : Source) (declared : Option Nat) :
    (opened source declared).Within source (declared.elim source.size (min · source.size)) := by
  cases declared with
  | none => exact ⟨rfl, rfl, Nat.zero_le _, Nat.le_refl _⟩
  | some limit => exact ⟨rfl, rfl, Nat.zero_le _, Nat.min_le_right _ _⟩

namespace Within
variable {limit : Nat}

theorem lt (h : c.Within source limit) (hsize : source.size < wordLimit) : c.limit < wordLimit :=
  h.limit_eq ▸ Nat.lt_of_le_of_lt h.limit_le hsize

theorem perform (h : c.Within source limit) (hsize : source.size < wordLimit) (op : Operation) :
    (c.perform op).Within source limit := by
  unfold Cursor.perform
  cases hafter : c.after? op with
  | none => exact h
  | some c' =>
    obtain ⟨hle, rfl⟩ := after?_eq_some (h.lt hsize) hafter
    exact ⟨h.source_eq, h.limit_eq, h.limit_eq ▸ hle, h.limit_le⟩

theorem run (h : c.Within source limit) (hsize : source.size < wordLimit) (ops : List Operation) :
    (c.run ops).Within source limit := by
  induction ops generalizing c with
  | nil => exact h
  | cons op ops ih => exact ih (h.perform hsize op)

end Within

/-- However a cursor is opened on a source, and whatever is then read and wherever it is moved to, it stands within its
    end, and that lies within the source. There a read succeeds just if it ends within the cursor's end and the source
    loads it, and a move just if its target is within that end. An operation takes the cursor to its target, which is a
    word, or leaves it as it is. What is read are the bytes that stand there, split into the fields of the header. -/
theorem run_stays_within {source : Source} (hsize : source.size < wordLimit) (declared : Option Nat)
    (ops : List Operation) :
    let c := (opened source declared).run ops
    c.Within source (declared.elim source.size (min · source.size)) ∧ c.offset + c.remaining = c.limit ∧
      (∀ {α : Type} (layout : Layout α) x c', c.read layout = some (x, c') ↔ c.offset + layout.size ≤ c.limit ∧
        ∃ bytes, source.load c.offset layout.size = some bytes ∧ x = layout.decode bytes ∧
          c' = { c with offset := c.offset + layout.size }) ∧
      (∀ target c', c.seek target = some c' ↔ target ≤ c.limit ∧ c' = { c with offset := target }) ∧
      (∀ op, c.after? op = none ∧ c.perform op = c ∨
        c.after? op = some (c.perform op) ∧ (c.perform op).offset = op.target c.offset ∧
          op.target c.offset < wordLimit) ∧
      (∀ data, source.Serves data → ∀ {α : Type} (layout : Layout α) x c', c.read layout = some (x, c') →
        (data.slice c.offset layout.size).length = layout.size ∧
          x = layout.decode (data.slice c.offset layout.size) ∧
          ∀ bytes, layout.Splits bytes → bytes x = data.slice c.offset layout.size) ∧
      (∀ data length, source = .packet data length → ∀ {α : Type} (layout : Layout α),
        (c.read layout).isSome ↔ c.offset + layout.size ≤ min c.limit data.length) ∧
      Ethernet.layout.Splits Ethernet.bytes ∧ Ipv4Header.layout.Splits Ipv4Header.bytes ∧
      TcpHeader.layout.Splits TcpHeader.bytes ∧ UdpHeader.layout.Splits UdpHeader.bytes := by
  intro c
  have hwithin : c.Within source _ := (within_opened source declared).run hsize ops
  have hlimit := hwithin.lt hsize
  have hsource := hwithin.source_eq
  have hread : ∀ {α : Type} (layout : Layout α) x c', c.read layout = some (x, c') ↔
      c.offset + layout.size ≤ c.limit ∧ ∃ bytes, source.load c.offset layout.size = some bytes ∧
        x = layout.decode bytes ∧ c' = { c with offset := c.offset + layout.size } :=
    fun layout x c' => hsource ▸ read_eq_some hlimit
  refine ⟨hwithin, Nat.add_sub_cancel' (hwithin.limit_eq ▸ hwithin.offset_le), hread, fun _ _ => seek_eq_some,
    fun op => ?_, fun data hserves _ layout x c' => read_serves (hsource ▸ hserves) hlimit,
    fun data length hpacket _ layout => isSome_read_packet (hsource.trans hpacket) hlimit,
    Ethernet.splits, Ipv4Header.splits, TcpHeader.splits, UdpHeader.splits⟩
  unfold perform
  cases hafter : c.after? op with
  | none => exact Or.inl ⟨rfl, rfl⟩
  | some c' =>
    obtain ⟨hle, rfl⟩ := after?_eq_some hlimit hafter
    exact Or.inr ⟨rfl, rfl, Nat.lt_of_le_of_lt hle hlimit⟩

/-- In a packet that declares more than its data the second header lies within the end but is not loaded. The cursor is
    then moved to the last of all words, where it does not go, and to its end and back, where it goes. -/
theorem run_stays_within_declared :
    let data : Bytes := (List.range 20).map UInt8.ofNat
    let source := Source.packet data 60
    let ops : List Operation :=
      [.read Ethernet.layout, .read Ipv4Header.layout, .seek (wordLimit - 1), .seek 60, .read UdpHeader.layout, .seek 4]
    let opening := opened source (some 1500)
    let c := opening.run ops
    source.size < wordLimit ∧ source.Serves data ∧ c.Within source 60 ∧ c.offset + c.remaining = c.limit ∧
      (opening.run (ops.take 3)).offset = 14 ∧ (opening.run (ops.take 5)).remaining = 0 ∧ c.offset = 4 ∧
      (c.read UdpHeader.layout).isSome ∧ (c.read TcpHeader.layout).isNone ∧
      ∀ x c', c.read UdpHeader.layout = some (x, c') → x.bytes = data.slice 4 8 := by
  intro data source ops opening c
  have hsize : source.size < wordLimit := by decide
  have hserves : source.Serves data := Source.serves_packet data 60
  have hoffset : c.offset = 4 := by decide
  obtain ⟨hwithin, hremaining, -, -, -, hbytes, -⟩ := run_stays_within hsize (some 1500) ops
  refine ⟨hsize, hserves, hwithin, hremaining, by decide, by decide, hoffset, by decide, by decide, fun x c' hread => ?_⟩
  obtain ⟨-, -, hsplit⟩ := hbytes data hserves UdpHeader.layout x c' hread
  exact (hsplit _ UdpHeader.splits).trans (by rw [hoffset]; rfl)

end Cursor
end FrameSentry
