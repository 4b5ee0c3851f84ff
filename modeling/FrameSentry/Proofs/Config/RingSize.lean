import Mathlib.Algebra.Ring.Nat
import Mathlib.Data.Nat.Log
import Mathlib.Order.Bounds.Basic
import Mathlib.Order.MinMax
import FrameSentry.Engine.Settings

/-! The size of the kernel's ring. One power of two is tried after the other, so the first that is large enough is found
    unless it is beyond the last that is tried: among words of `n` bits, that is the `n`th. A size that is found is no
    smaller than any of the bounds, and a page that is a power of two itself divides it. -/

namespace FrameSentry
namespace EngineSettings
variable {s s' : EngineSettings} {n fuel k pageSize ring : Nat}

/-! ### The search -/

theorem powerOfTwoFrom_eq (hk : k ≤ Nat.clog 2 n) : powerOfTwoFrom n fuel k =
    if Nat.clog 2 n < k + fuel then some (2 ^ Nat.clog 2 n) else none := by
  induction fuel generalizing k with
  | zero =>
    rw [if_neg (by omega)]
    rfl
  | succ fuel ih =>
    rw [powerOfTwoFrom, Nat.one_shiftLeft]
    by_cases hlarge : n ≤ 2 ^ k
    · have hhere : Nat.clog 2 n = k := Nat.le_antisymm (Nat.clog_le_of_le_pow hlarge) hk
      rw [if_pos hlarge, hhere, if_pos (by omega)]
    · have hbeyond : k < Nat.clog 2 n := (Nat.lt_clog_iff_pow_lt (by decide)).mpr (Nat.lt_of_not_le hlarge)
      rw [if_neg hlarge, ih hbeyond, Nat.succ_add_eq_add_succ]

/-- A word of `n + 1` bits holds the powers of two up to `2 ^ n`. -/
theorem powerOfTwoFrom_word (need n : Nat) : powerOfTwoFrom need (n + 1) 0 =
    if need ≤ 2 ^ n then some (2 ^ Nat.clog 2 need) else none := by
  rw [powerOfTwoFrom_eq (Nat.zero_le _), Nat.zero_add]
  simp only [Nat.lt_succ_iff, Nat.clog_le_iff_le_pow Nat.one_lt_two]

theorem isLeast_pow_clog (n : Nat) : IsLeast {p | p.isPowerOfTwo ∧ n ≤ p} (2 ^ Nat.clog 2 n) := by
  refine ⟨⟨⟨_, rfl⟩, Nat.le_pow_clog Nat.one_lt_two n⟩, ?_⟩
  rintro _ ⟨⟨j, rfl⟩, hj⟩
  exact Nat.pow_le_pow_right Nat.two_pos (Nat.clog_le_of_le_pow hj)

theorem dvd_pow_clog {j : Nat} (h : 2 ^ j ≤ n) : 2 ^ j ∣ 2 ^ Nat.clog 2 n := by
  refine Nat.pow_dvd_pow 2 ?_
  rw [← Nat.clog_pow 2 j Nat.one_lt_two]
  exact Nat.clog_mono_right 2 h

/-! ### The size -/

/-- What the ring has to hold. -/
def needed (s : EngineSettings) (pageSize : Nat) : Nat :=
  max (max s.capture.ringBufferSize (max pageSize 1)) (Record.size + Ring.headerSize)

theorem ringSize_eq (s : EngineSettings) (pageSize : Nat) : s.ringSize pageSize =
    if s.needed pageSize ≤ 2 ^ 31 then .ok (2 ^ Nat.clog 2 (s.needed pageSize))
    else .error (.attach (.map s!"ring_buffer_size {s.capture.ringBufferSize} does not fit a kernel ring buffer")) := by
  have hsearch := powerOfTwoFrom_word (s.needed pageSize) 31
  unfold ringSize
  by_cases hfits : s.needed pageSize ≤ 2 ^ 31
  · rw [if_pos hfits] at hsearch ⊢
    simp only [show powerOfTwoFrom (max (max s.capture.ringBufferSize (max pageSize 1)) _) 32 0 = _ from hsearch]
  · rw [if_neg hfits] at hsearch ⊢
    simp only [show powerOfTwoFrom (max (max s.capture.ringBufferSize (max pageSize 1)) _) 32 0 = _ from hsearch]

theorem ringSize_ok (h : s.ringSize pageSize = .ok ring) :
    s.needed pageSize ≤ 2 ^ 31 ∧ ring = 2 ^ Nat.clog 2 (s.needed pageSize) := by
  rw [ringSize_eq] at h
  split at h <;> cases h
  exact ⟨by assumption, rfl⟩

theorem needed_mono (h : s.capture.ringBufferSize ≤ s'.capture.ringBufferSize) (pageSize : Nat) :
    s.needed pageSize ≤ s'.needed pageSize :=
  max_le_max (max_le_max h le_rfl) le_rfl

theorem page_le_needed (s : EngineSettings) (pageSize : Nat) : pageSize ≤ s.needed pageSize :=
  le_trans (le_max_left _ _) (le_trans (le_max_right _ _) (le_max_left _ _))

/-- The kernel's ring has the least size that it can have. Let `need` be the greatest of what is configured, of the size
    of a page, of 1 and of the 65548 bytes that a record takes. There is a size just if `need` is at most `2 ^ 31`, and
    it is the least power of two that is no less than `need`. It lies between 131072 and `2 ^ 31`, consists of whole pages
    if a page is a power of two, and if more is configured it is no smaller, nor is there a size where there was none.
    Beyond `2 ^ 31` it is an error that the configured size does not fit. No word overflows on the way: it comes to the
    same to look for a power of two among the words of 64 bits, where there is one just if `need` is at most `2 ^ 63`,
    and then to ask whether it is a word of 32 bits. -/
theorem ring_size_least (s : EngineSettings) (pageSize : Nat) :
    let need := max (max s.capture.ringBufferSize (max pageSize 1)) 65548
    let tooLarge : Error :=
      .attach (.map s!"ring_buffer_size {s.capture.ringBufferSize} does not fit a kernel ring buffer")
    ((∃ ring, s.ringSize pageSize = .ok ring) ↔ need ≤ 2 ^ 31) ∧
      (∀ ring, s.ringSize pageSize = .ok ring →
        IsLeast {p | p.isPowerOfTwo ∧ need ≤ p} ring ∧ 131072 ≤ ring ∧ ring ≤ 2 ^ 31 ∧
          (pageSize.isPowerOfTwo → pageSize ∣ ring)) ∧
      (∀ (s' : EngineSettings) (ring' : Nat), s.capture.ringBufferSize ≤ s'.capture.ringBufferSize →
        s'.ringSize pageSize = .ok ring' → ∃ ring, s.ringSize pageSize = .ok ring ∧ ring ≤ ring') ∧
      (2 ^ 31 < need → s.ringSize pageSize = .error tooLarge) ∧
      powerOfTwoFrom need 64 0 = (if need ≤ 2 ^ 63 then some (2 ^ Nat.clog 2 need) else none) ∧
      s.ringSize pageSize =
        match powerOfTwoFrom need 64 0 with
        | some p => if p < mapSizeLimit then .ok p else .error tooLarge
        | none => .error tooLarge := by
  intro need tooLarge
  have heq : s.ringSize pageSize = if need ≤ 2 ^ 31 then .ok (2 ^ Nat.clog 2 need) else .error tooLarge :=
    s.ringSize_eq pageSize
  have hword : powerOfTwoFrom need 64 0 = if need ≤ 2 ^ 63 then some (2 ^ Nat.clog 2 need) else none :=
    powerOfTwoFrom_word need 63
  refine ⟨?_, fun ring h => ?_, fun s' ring' hmore h => ?_, fun hlarge => ?_, hword, ?_⟩
  · constructor
    · rintro ⟨ring, h⟩
      exact (ringSize_ok h).1
    · intro hfits
      exact ⟨_, heq.trans (if_pos hfits)⟩
  · obtain ⟨hfits, rfl⟩ := ringSize_ok h
    have hrecord : 2 ^ 16 < need := Nat.lt_of_lt_of_le (by decide) (le_max_right _ 65548)
    have hclog : 17 ≤ Nat.clog 2 need := (Nat.lt_clog_iff_pow_lt Nat.one_lt_two).mpr hrecord
    refine ⟨isLeast_pow_clog need, Nat.pow_le_pow_right Nat.two_pos hclog,
      Nat.pow_le_pow_right Nat.two_pos (Nat.clog_le_of_le_pow hfits), ?_⟩
    rintro ⟨j, hj⟩
    have hpages : 2 ^ j ∣ 2 ^ Nat.clog 2 need := dvd_pow_clog (hj ▸ s.page_le_needed pageSize)
    rwa [← hj] at hpages
  · obtain ⟨hfits, rfl⟩ := ringSize_ok h
    have hneed := needed_mono hmore pageSize
    refine ⟨_, heq.trans (if_pos (hneed.trans hfits)), ?_⟩
    exact Nat.pow_le_pow_right Nat.two_pos (Nat.clog_mono_right 2 hneed)
  · exact heq.trans (if_neg (Nat.not_le_of_lt hlarge))
  · -- A power that is found is a word of 32 bits just if what is needed is no more than the last that there is.
    have hnarrow : 2 ^ Nat.clog 2 need < mapSizeLimit ↔ need ≤ 2 ^ 31 := by
      rw [mapSizeLimit, Nat.one_shiftLeft, Nat.pow_lt_pow_iff_right Nat.one_lt_two, Nat.lt_succ_iff,
        Nat.clog_le_iff_le_pow Nat.one_lt_two]
    rw [heq, hword]
    by_cases hwide : need ≤ 2 ^ 63
    · simp only [if_pos hwide, hnarrow]
    · have hlarge : ¬need ≤ 2 ^ 31 := fun h => hwide (h.trans (by decide))
      rw [if_neg hwide, if_neg hlarge]

end EngineSettings
end FrameSentry
