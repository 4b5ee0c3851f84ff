import FrameSentry.Frame.Classification

/-! The byte-level grammar of a frame. The parser reads three headers through a cursor, one link after
    the other; the grammar says at once, from single bytes and the number of bytes that may be read, what
    the frame is. Here the parser is proved to compute the grammar, for bytes in memory and for a packet
    whose declared length differs from its data. -/

namespace FrameSentry

namespace Bytes

/-- The length of the network header in words of four bytes: the low half of the byte at place 14. -/
def headerWords (d : Bytes) : Nat := (d.byteAt 14).toNat % 16

/-- Where the transport header begins. -/
def transportStart (d : Bytes) : Nat := 14 + 4 * d.headerWords

/-- A frame whose transport header lies within what may be read. -/
def ended (d : Bytes) (protocol : Protocol) : Classification :=
  .classified
    { protocol
      source := ⟨d.byteAt 26, d.byteAt 27, d.byteAt 28, d.byteAt 29⟩
      destination := ⟨d.byteAt 30, d.byteAt 31, d.byteAt 32, d.byteAt 33⟩
      sourcePort := d.word16At d.transportStart
      destinationPort := d.word16At (d.transportStart + 2)
      transportOffset := d.transportStart }

/-- What the first `n` bytes of `d` are. -/
def grammar (d : Bytes) (n : Nat) : Classification :=
  if n < 14 then .truncated
  else if ¬(d.byteAt 12 = 0x08 ∧ d.byteAt 13 = 0x00) then .unsupportedLinkType
  else if n < 34 ∨ d.headerWords < 5 then .truncated
  else if d.byteAt 23 ≠ 6 ∧ d.byteAt 23 ≠ 17 then .unsupportedTransport
  else if d.byteAt 23 = 6 then
    if n < d.transportStart + 20 then .truncated else d.ended .tcp
  else
    if n < d.transportStart + 8 then .truncated else d.ended .udp

theorem headerWords_lt (d : Bytes) : d.headerWords < 16 := Nat.mod_lt _ (by decide)

theorem transportStart_lt (d : Bytes) : d.transportStart < 75 := by
  have := d.headerWords_lt
  unfold transportStart
  omega

/-- Two bytes make a number in exactly one way. -/
theorem word16At_eq_iff (d : Bytes) (i : Nat) {a b : UInt8} :
    d.word16At i = UInt16.ofNat (a.toNat * 256 + b.toNat) ↔ d.byteAt i = a ∧ d.byteAt (i + 1) = b := by
  unfold word16At
  have ha := a.toNat_lt
  have hb := b.toNat_lt
  have hi := (d.byteAt i).toNat_lt
  have hi' := (d.byteAt (i + 1)).toNat_lt
  rw [← UInt16.toNat_inj, ← UInt8.toNat_inj, ← UInt8.toNat_inj, UInt16.toNat_ofNat', UInt16.toNat_ofNat']
  omega

/-- A classified frame's transport header begins behind a network header of five to fifteen words, and its
    fixed part lies within what may be read. -/
theorem grammar_classified {d : Bytes} {n : Nat} {f : ClassifiedFrame} (h : d.grammar n = .classified f) :
    34 ≤ f.transportOffset ∧ f.transportOffset ≤ 74 ∧ f.transportOffset + f.protocol.fixedHeader ≤ n := by
  have hstart := d.transportStart_lt
  unfold grammar at h
  split at h
  · cases h
  split at h
  · cases h
  split at h
  · cases h
  rename_i hwords
  have hleast : 34 ≤ d.transportStart := by
    unfold transportStart
    omega
  split at h
  · cases h
  split at h <;> split at h <;> cases h <;> rename_i hn
  · exact ⟨hleast, Nat.le_of_lt_succ hstart, Nat.le_of_not_lt hn⟩
  · exact ⟨hleast, Nat.le_of_lt_succ hstart, Nat.le_of_not_lt hn⟩

end Bytes

/-! ### The headers of a packet -/

namespace Cursor
section Packet
variable (d : Bytes) (size limit : Nat)

theorem read_ethernet : (Cursor.mk (.packet d size) 0 limit).read Ethernet.layout =
    if 14 ≤ min limit d.length then some (Ethernet.layout.decode (d.slice 0 14), ⟨.packet d size, 14, limit⟩)
    else none :=
  read_packet d size 0 limit Ethernet.layout (by decide)

theorem read_ipv4 : (Cursor.mk (.packet d size) 14 limit).read Ipv4Header.layout =
    if 34 ≤ min limit d.length then some (Ipv4Header.layout.decode (d.slice 14 20), ⟨.packet d size, 34, limit⟩)
    else none :=
  read_packet d size 14 limit Ipv4Header.layout (by decide)

theorem decode_etherType : (Ethernet.layout.decode (d.slice 0 14)).etherType = Ethernet.ipv4Type ↔
    d.byteAt 12 = 0x08 ∧ d.byteAt 13 = 0x00 := by
  show (d.slice 0 14).word16At 12 = _ ↔ _
  rw [Bytes.word16At_slice d 0 (by decide)]
  exact d.word16At_eq_iff 12 (a := 0x08) (b := 0x00)

theorem decode_words : (Ipv4Header.layout.decode (d.slice 14 20)).words = d.headerWords := by
  show ((d.slice 14 20).byteAt 0).toNat % 16 = _
  rw [Bytes.byteAt_slice d 14 (by decide)]
  rfl

theorem decode_protocol : (Ipv4Header.layout.decode (d.slice 14 20)).protocol = d.byteAt 23 :=
  Bytes.byteAt_slice d 14 (by decide)

theorem decode_source : (Ipv4Header.layout.decode (d.slice 14 20)).source =
    ⟨d.byteAt 26, d.byteAt 27, d.byteAt 28, d.byteAt 29⟩ := by
  show (d.slice 14 20).ipv4At 12 = _
  simp [Bytes.ipv4At, Bytes.byteAt_slice]

theorem decode_destination : (Ipv4Header.layout.decode (d.slice 14 20)).destination =
    ⟨d.byteAt 30, d.byteAt 31, d.byteAt 32, d.byteAt 33⟩ := by
  show (d.slice 14 20).ipv4At 16 = _
  simp [Bytes.ipv4At, Bytes.byteAt_slice]

/-- The ports stand at the front of either transport header. -/
theorem readPorts_packet (p : Protocol) {start : Nat} (hstart : start < 75) :
    (Cursor.mk (.packet d size) start limit).readPorts p =
      if start + p.fixedHeader ≤ min limit d.length then some (d.word16At start, d.word16At (start + 2))
      else none := by
  cases p with
  | tcp =>
    have hports : (d.slice start 20).word16At 0 = d.word16At start ∧
        (d.slice start 20).word16At 2 = d.word16At (start + 2) :=
      ⟨Bytes.word16At_slice d start (by decide), Bytes.word16At_slice d start (by decide)⟩
    rw [readPorts, read_packet d size start limit _ (by simp [TcpHeader.layout, wordLimit]; omega)]
    split
    · rw [if_pos (by assumption), ← hports.1, ← hports.2]
      rfl
    · rw [if_neg (by assumption)]
      rfl
  | udp =>
    have hports : (d.slice start 8).word16At 0 = d.word16At start ∧
        (d.slice start 8).word16At 2 = d.word16At (start + 2) :=
      ⟨Bytes.word16At_slice d start (by decide), Bytes.word16At_slice d start (by decide)⟩
    rw [readPorts, read_packet d size start limit _ (by simp [UdpHeader.layout, wordLimit]; omega)]
    split
    · rw [if_pos (by assumption), ← hports.1, ← hports.2]
      rfl
    · rw [if_neg (by assumption)]
      rfl

/-- To move to the transport header fails only where reading there fails as well, so it makes no
    difference whether the cursor's end is the packet's declared length or that of its data. -/
theorem seek_readPorts (p : Protocol) (offset : Nat) {start : Nat} (hstart : start < 75) :
    ((Cursor.mk (.packet d size) offset limit).seek start).bind (fun c => c.readPorts p) =
      if start + p.fixedHeader ≤ min limit d.length then some (d.word16At start, d.word16At (start + 2))
      else none := by
  unfold seek
  by_cases hseek : limit < start
  · rw [if_pos hseek, if_neg (by omega)]
    rfl
  · rw [if_neg hseek, Option.bind_some]
    exact readPorts_packet d size limit p hstart

/-- Of a protocol that has ports, the frame is classified if the transport header lies within it. -/
theorem classifyTransport_of_protocol (offset : Nat) {p : Protocol} (hp : Protocol.ofNumber? (d.byteAt 23) = some p) :
    (Cursor.mk (.packet d size) offset limit).classifyTransport (Ipv4Header.layout.decode (d.slice 14 20))
        d.transportStart =
      if min limit d.length < d.transportStart + p.fixedHeader then .truncated else d.ended p := by
  unfold classifyTransport
  rw [decode_protocol, decode_source, decode_destination, hp]
  simp only []
  rw [seek_readPorts d size limit p offset d.transportStart_lt]
  by_cases hend : min limit d.length < d.transportStart + p.fixedHeader
  · rw [if_pos hend, if_neg (Nat.not_le_of_lt hend)]
  · rw [if_neg hend, if_pos (Nat.le_of_not_lt hend)]
    rfl

/-- The last two decisions of the grammar: the protocol, and whether its header lies within the frame. -/
theorem classifyTransport_packet (offset : Nat) :
    (Cursor.mk (.packet d size) offset limit).classifyTransport (Ipv4Header.layout.decode (d.slice 14 20))
        d.transportStart =
      if d.byteAt 23 ≠ 6 ∧ d.byteAt 23 ≠ 17 then .unsupportedTransport
      else if d.byteAt 23 = 6 then
        if min limit d.length < d.transportStart + 20 then .truncated else d.ended .tcp
      else
        if min limit d.length < d.transportStart + 8 then .truncated else d.ended .udp := by
  by_cases htcp : d.byteAt 23 = 6
  · rw [if_neg (fun h => h.1 htcp), if_pos htcp]
    exact classifyTransport_of_protocol d size limit offset (p := .tcp) (by simp [Protocol.ofNumber?, htcp])
  by_cases hudp : d.byteAt 23 = 17
  · rw [if_neg (fun h => h.2 hudp), if_neg htcp]
    exact classifyTransport_of_protocol d size limit offset (p := .udp) (by simp [Protocol.ofNumber?, hudp])
  · rw [if_pos ⟨htcp, hudp⟩]
    unfold classifyTransport
    rw [decode_protocol]
    simp [Protocol.ofNumber?, htcp, hudp]

/-- The parser computes the grammar in every packet, whatever length the packet declares. -/
theorem classify_packet : (Cursor.mk (.packet d size) 0 limit).classify = d.grammar (min limit d.length) := by
  unfold classify Bytes.grammar
  rw [read_ethernet]
  by_cases hlink : min limit d.length < 14
  · rw [if_neg (Nat.not_le_of_lt hlink), if_pos hlink]
  rw [if_pos (Nat.le_of_not_lt hlink), if_neg hlink]
  simp only []
  by_cases htype : d.byteAt 12 = 0x08 ∧ d.byteAt 13 = 0x00
  case neg => rw [if_pos (mt (decode_etherType d).mp htype), if_pos htype]
  rw [if_neg (not_not_intro ((decode_etherType d).mpr htype)), if_neg (not_not_intro htype), read_ipv4]
  by_cases hnetwork : min limit d.length < 34
  · rw [if_neg (Nat.not_le_of_lt hnetwork), if_pos (Or.inl hnetwork)]
  rw [if_pos (Nat.le_of_not_lt hnetwork)]
  simp only [Ipv4Header.headerLength, Ipv4Header.leastWords, decode_words]
  by_cases hwords : d.headerWords < 5
  · rw [if_pos hwords, if_pos (Or.inr hwords)]
  rw [if_neg hwords, if_neg (fun h => h.elim hnetwork hwords), Nat.mul_comm]
  exact classifyTransport_packet d size limit _

end Packet
end Cursor

/-! ### Bytes in memory -/

namespace Bytes

theorem classifyWithin_eq (d : Bytes) (limit : Nat) :
    d.classifyWithin limit = d.grammar (min limit d.length) := by
  show (Cursor.mk (.packet d d.length) 0 (min limit d.length)).classify = _
  rw [Cursor.classify_packet, Nat.min_assoc, Nat.min_self]

/-- The parser computes the grammar of the bytes within the declared end, and what it classifies has its
    whole fixed transport header there. -/
theorem parser_computes_grammar (d : Bytes) (limit : Nat) :
    d.classifyWithin limit = d.grammar (min limit d.length) ∧
      ∀ f, d.classifyWithin limit = .classified f →
        34 ≤ f.transportOffset ∧ f.transportOffset ≤ 74 ∧
          f.transportOffset + f.protocol.fixedHeader ≤ min limit d.length := by
  refine ⟨classifyWithin_eq d limit, fun f hf => ?_⟩
  rw [classifyWithin_eq] at hf
  exact grammar_classified hf

end Bytes
end FrameSentry
