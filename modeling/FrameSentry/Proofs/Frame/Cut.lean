import FrameSentry.Capture.Summary
import FrameSentry.Proofs.Frame.Grammar

/-! Frames that are cut short. The grammar looks at a byte only when it lies within what may be read, and whatever it
    cannot look at makes the frame truncated; so a frame of which less is there is truncated or what it was. What is
    classified stays classified as long as its fixed transport header is there, and then its header lengths are read
    from the same bytes. -/

namespace FrameSentry

namespace Bytes
variable {p d : Bytes}

/-! ### Fewer bytes that may be read -/

theorem grammar_of_le (d : Bytes) {n m : Nat} (hn : n ≤ m) :
    d.grammar n = .truncated ∨ d.grammar n = d.grammar m := by
  unfold grammar
  -- At each decision the frame is cut off with `n` bytes, or it is decided as with `m`.
  by_cases hlink : n < 14
  · exact Or.inl (if_pos hlink)
  rw [if_neg hlink, if_neg (show ¬m < 14 by omega)]
  by_cases htype : d.byteAt 12 = 0x08 ∧ d.byteAt 13 = 0x00
  case neg => exact Or.inr (by rw [if_pos htype, if_pos htype])
  rw [if_neg (not_not_intro htype), if_neg (not_not_intro htype)]
  by_cases hnetwork : n < 34 ∨ d.headerWords < 5
  · exact Or.inl (if_pos hnetwork)
  rw [if_neg hnetwork, if_neg (show ¬(m < 34 ∨ d.headerWords < 5) by omega)]
  by_cases hprotocol : d.byteAt 23 ≠ 6 ∧ d.byteAt 23 ≠ 17
  · exact Or.inr (by rw [if_pos hprotocol, if_pos hprotocol])
  rw [if_neg hprotocol, if_neg hprotocol]
  by_cases htcp : d.byteAt 23 = 6
  · rw [if_pos htcp, if_pos htcp]
    by_cases hend : n < d.transportStart + 20
    · exact Or.inl (if_pos hend)
    · exact Or.inr (by rw [if_neg hend, if_neg (by omega)])
  · rw [if_neg htcp, if_neg htcp]
    by_cases hend : n < d.transportStart + 8
    · exact Or.inl (if_pos hend)
    · exact Or.inr (by rw [if_neg hend, if_neg (by omega)])

/-- What the bytes must hold to be classified as `f`. How many of them may be read is another matter. -/
structure Carries (d : Bytes) (f : ClassifiedFrame) : Prop where
  type : d.byteAt 12 = 0x08 ∧ d.byteAt 13 = 0x00
  words : 5 ≤ d.headerWords
  protocol : d.byteAt 23 = f.protocol.number
  ended : d.ended f.protocol = .classified f

namespace Carries
variable {f : ClassifiedFrame}

theorem transportOffset (hf : d.Carries f) : f.transportOffset = d.transportStart := by
  have heq := Classification.classified.inj hf.ended
  rw [← heq]

theorem grammar {n : Nat} (hf : d.Carries f) (hn : f.transportOffset + f.protocol.fixedHeader ≤ n) :
    d.grammar n = .classified f := by
  have hended := hf.ended
  have hprotocol := hf.protocol
  have hwords := hf.words
  have hleast : 34 ≤ d.transportStart := by
    unfold transportStart
    omega
  rw [hf.transportOffset] at hn
  unfold Bytes.grammar
  rw [if_neg (show ¬n < 14 by omega), if_neg (not_not_intro hf.type),
    if_neg (show ¬(n < 34 ∨ d.headerWords < 5) by omega)]
  cases hp : f.protocol with
  | tcp =>
    rw [hp] at hended hprotocol hn
    have htcp : d.byteAt 23 = 6 := hprotocol
    have hend : ¬n < d.transportStart + 20 := Nat.not_lt_of_le hn
    rw [if_neg (fun h => h.1 htcp), if_pos htcp, if_neg hend, hended]
  | udp =>
    rw [hp] at hended hprotocol hn
    have hudp : d.byteAt 23 = 17 := hprotocol
    have hend : ¬n < d.transportStart + 8 := Nat.not_lt_of_le hn
    rw [if_neg (fun h => h.2 hudp), if_neg (by rw [hudp]; decide), if_neg hend, hended]

end Carries

theorem carries_of_grammar {n : Nat} {f : ClassifiedFrame} (h : d.grammar n = .classified f) : d.Carries f := by
  unfold grammar at h
  split at h
  · cases h
  split at h
  · cases h
  rename_i htype
  split at h
  · cases h
  rename_i hnetwork
  have hwords : 5 ≤ d.headerWords := by omega
  split at h
  · cases h
  rename_i hprotocol
  split at h
  · rename_i htcp
    split at h
    · cases h
    · cases h
      exact ⟨Decidable.not_not.mp htype, hwords, htcp, rfl⟩
  · rename_i htcp
    have hudp : d.byteAt 23 = 17 := Decidable.not_not.mp fun hne => hprotocol ⟨htcp, hne⟩
    split at h
    · cases h
    · cases h
      exact ⟨Decidable.not_not.mp htype, hwords, hudp, rfl⟩

/-- A classified frame of which less may be read is classified alike as far as its fixed transport header reaches, and
    truncated below. -/
theorem grammar_cut {n m : Nat} {f : ClassifiedFrame} (h : d.grammar m = .classified f) (hn : n ≤ m) :
    d.grammar n = if f.transportOffset + f.protocol.fixedHeader ≤ n then .classified f else .truncated := by
  by_cases hcover : f.transportOffset + f.protocol.fixedHeader ≤ n
  · rw [if_pos hcover, (carries_of_grammar h).grammar hcover]
  · rw [if_neg hcover]
    rcases d.grammar_of_le hn with htruncated | heq
    · exact htruncated
    · rw [h] at heq
      exact absurd (grammar_classified heq).2.2 hcover

/-! ### Fewer bytes -/

theorem byteAt_initial (hp : p <+: d) {i : Nat} (hi : i < p.length) : p.byteAt i = d.byteAt i := by
  obtain ⟨rest, rfl⟩ := hp
  unfold byteAt
  rw [List.getD_eq_getElem?_getD, List.getD_eq_getElem?_getD, List.getElem?_append_left hi]

theorem word16At_initial (hp : p <+: d) {i : Nat} (hi : i + 1 < p.length) : p.word16At i = d.word16At i := by
  unfold word16At
  rw [byteAt_initial hp (show i < p.length by omega), byteAt_initial hp hi]

theorem headerWords_initial (hp : p <+: d) (hn : 34 ≤ p.length) : p.headerWords = d.headerWords := by
  unfold headerWords
  rw [byteAt_initial hp (show 14 < p.length by omega)]

theorem ended_initial (hp : p <+: d) (hn : 34 ≤ p.length) (hend : p.transportStart + 8 ≤ p.length)
    (protocol : Protocol) : p.ended protocol = d.ended protocol := by
  have hstart : p.transportStart = d.transportStart := by
    unfold transportStart
    rw [headerWords_initial hp hn]
  have hbyte : ∀ i, i < 34 → p.byteAt i = d.byteAt i := fun i hi => byteAt_initial hp (by omega)
  unfold ended
  rw [word16At_initial hp (show p.transportStart + 1 < p.length by omega),
    word16At_initial hp (show p.transportStart + 2 + 1 < p.length by omega), hstart]
  simp only [hbyte, Nat.reduceLT]

/-- The grammar looks at no byte past those that may be read. -/
theorem grammar_initial (hp : p <+: d) : p.grammar p.length = d.grammar p.length := by
  unfold grammar
  by_cases hlink : p.length < 14
  · rw [if_pos hlink, if_pos hlink]
  rw [if_neg hlink, if_neg hlink, byteAt_initial hp (show 12 < p.length by omega),
    byteAt_initial hp (show 13 < p.length by omega)]
  by_cases hnetwork : p.length < 34
  · rw [if_pos (Or.inl hnetwork), if_pos (Or.inl hnetwork)]
  have hwords := headerWords_initial hp (Nat.le_of_not_lt hnetwork)
  have hstart : p.transportStart = d.transportStart := by
    unfold transportStart
    rw [hwords]
  have hended : d.transportStart + 8 ≤ p.length → ∀ protocol, p.ended protocol = d.ended protocol := fun hend =>
    ended_initial hp (Nat.le_of_not_lt hnetwork) (by omega)
  rw [hwords, hstart, byteAt_initial hp (show 23 < p.length by omega)]
  -- The ports are looked at only if the shorter of the two transport headers is there.
  by_cases hend : p.length < d.transportStart + 8
  · rw [if_pos hend, if_pos hend, if_pos (show p.length < d.transportStart + 20 by omega),
      if_pos (show p.length < d.transportStart + 20 by omega)]
  · rw [hended (by omega), hended (by omega)]

theorem classify_eq_grammar (d : Bytes) : d.classify = d.grammar d.length := by
  have hpacket := Cursor.classify_packet d d.length d.length
  rw [Nat.min_self] at hpacket
  exact hpacket

/-- A frame that is cut short is truncated or what it was. -/
theorem classify_initial (hp : p <+: d) : p.classify = .truncated ∨ p.classify = d.classify := by
  rw [classify_eq_grammar, classify_eq_grammar, grammar_initial hp]
  exact d.grammar_of_le hp.length_le

theorem classify_cut {m : Nat} {f : ClassifiedFrame} (h : d.grammar m = .classified f) (hp : p <+: d)
    (hm : p.length ≤ m) :
    p.classify = if f.transportOffset + f.protocol.fixedHeader ≤ p.length then .classified f else .truncated := by
  rw [classify_eq_grammar, grammar_initial hp]
  exact grammar_cut h hm

end Bytes

/-! ### Header lengths -/

/-- The length of the transport header as the whole frame tells it. -/
def ClassifiedFrame.transportHeaderIn (f : ClassifiedFrame) (d : Bytes) : Nat :=
  match f.protocol with
  | .udp => 8
  | .tcp => max 20 (4 * ((d.byteAt (f.transportOffset + 12)).toNat / 16))

/-- It is read alike from a part that has the fixed header. -/
theorem ClassifiedFrame.transportHeaderLength_initial {f : ClassifiedFrame} {p d : Bytes} (hp : p <+: d)
    (hoffset : f.transportOffset < 75) (hcover : f.transportOffset + f.protocol.fixedHeader ≤ p.length) :
    f.transportHeaderLength p = f.transportHeaderIn d := by
  unfold transportHeaderLength transportHeaderIn
  cases hprotocol : f.protocol with
  | udp => rfl
  | tcp =>
    rw [hprotocol] at hcover
    have hend : f.transportOffset + 20 ≤ p.length := hcover
    have hseek : (Cursor.ofSource (.ofBytes p)).seek f.transportOffset =
        some ⟨.packet p p.length, f.transportOffset, p.length⟩ :=
      if_neg (show ¬p.length < f.transportOffset by omega)
    have hword : f.transportOffset + TcpHeader.layout.size < wordLimit := by
      simp [TcpHeader.layout, wordLimit]
      omega
    have hdata : (p.slice f.transportOffset 20).byteAt 12 = d.byteAt (f.transportOffset + 12) := by
      rw [Bytes.byteAt_slice p _ (by decide), Bytes.byteAt_initial hp (by omega)]
    simp only [hseek, Option.bind_some]
    rw [Cursor.read_packet _ _ _ _ _ hword, if_pos (by rw [Nat.min_self]; exact hend)]
    show max (((p.slice f.transportOffset 20).byteAt 12).toNat / 16 * 4) 20 = _
    rw [hdata, Nat.max_comm, Nat.mul_comm]

end FrameSentry
