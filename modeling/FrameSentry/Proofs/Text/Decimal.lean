import FrameSentry.Text.Numeral

/-! Decimal numerals. A text is read as a number below a limit just if it writes such a number: it has digits, at least
    one, after at most one plus sign, and these have the value that their places give them. Zeros may lead. What a number
    is written as writes that number again. -/

namespace FrameSentry.Numeral
variable {s digits : List Char} {n m limit : Nat}

/-- The text has digits, at least one, after at most one plus sign, and they have this value. -/
def Writes (s : List Char) (n : Nat) : Prop :=
  ∃ sign digits, s = sign ++ digits ∧ (sign = [] ∨ sign = ['+']) ∧ digits ≠ [] ∧ (∀ c ∈ digits, c.isDigit = true) ∧
    Nat.ofDigitChars 10 digits 0 = n

/-! ### Digits -/

theorem digit?_ten (c : Char) : digit? 10 c = if c.isDigit then some (c.toNat - '0'.toNat) else none := by
  have hdigit : c.isDigit = true ↔ '0' ≤ c ∧ c ≤ '9' := by simp [Char.isDigit, Char.le_def]
  unfold digit?
  by_cases h : '0' ≤ c ∧ c ≤ '9'
  · have hlast : c.toNat ≤ '9'.toNat := h.2
    have hsmall : c.toNat - '0'.toNat < 10 := by
      simp only [show '9'.toNat = 57 from rfl, show '0'.toNat = 48 from rfl] at hlast ⊢
      omega
    simp only [if_pos h, hdigit.mpr h, if_pos hsmall, if_true]
  · have hletter : 10 ≤ if 'a' ≤ c ∧ c ≤ 'f' then c.toNat - 'a'.toNat + 10
        else if 'A' ≤ c ∧ c ≤ 'F' then c.toNat - 'A'.toNat + 10 else 10 := by
      split
      · omega
      · split <;> omega
    simp only [if_neg h, if_neg (mt hdigit.mp h)]
    exact if_neg (Nat.not_lt.mpr hletter)

theorem isDigit_ten (c : Char) : isDigit 10 c = c.isDigit := by
  unfold isDigit
  rw [digit?_ten]
  cases c.isDigit <;> rfl

/-- Digits have the value that their places give them. -/
theorem value_ten (h : ∀ c ∈ digits, c.isDigit = true) : value 10 digits = Nat.ofDigitChars 10 digits 0 := by
  have hfold : ∀ start, digits.foldl (fun n c => n * 10 + (digit? 10 c).getD 0) start =
      digits.foldl (fun n c => 10 * n + (c.toNat - '0'.toNat)) start := by
    induction digits with
    | nil => exact fun _ => rfl
    | cons c rest ih =>
      intro start
      rw [List.forall_mem_cons] at h
      rw [List.foldl_cons, List.foldl_cons, ih h.2, digit?_ten, if_pos h.1, Option.getD_some, Nat.mul_comm]
  rw [Nat.ofDigitChars_eq_foldl]
  exact hfold 0

/-! ### Numerals -/

/-- Text that is read as digits. -/
theorem digits_eq_some :
    (if digits ≠ [] ∧ digits.all (isDigit 10) ∧ value 10 digits < limit then some (value 10 digits) else none) = some n ↔
      (digits ≠ [] ∧ (∀ c ∈ digits, c.isDigit = true) ∧ Nat.ofDigitChars 10 digits 0 = n) ∧ n < limit := by
  have hall : digits.all (isDigit 10) = true ↔ ∀ c ∈ digits, c.isDigit = true := by
    simp only [List.all_eq_true, isDigit_ten]
  simp only [hall, Option.ite_none_right_eq_some, Option.some.injEq]
  constructor
  · rintro ⟨⟨hne, hdigits, hlimit⟩, rfl⟩
    exact ⟨⟨hne, hdigits, (value_ten hdigits).symm⟩, hlimit⟩
  · rintro ⟨⟨hne, hdigits, rfl⟩, hlimit⟩
    rw [value_ten hdigits]
    exact ⟨⟨hne, hdigits, hlimit⟩, rfl⟩

theorem decimal?_eq_some : decimal? limit s = some n ↔ Writes s n ∧ n < limit := by
  unfold decimal?
  simp only
  rw [digits_eq_some]
  refine and_congr_left fun _ => ?_
  split
  · rename_i rest
    constructor
    · exact fun h => ⟨['+'], rest, rfl, Or.inr rfl, h⟩
    · rintro ⟨sign, digits, heq, rfl | rfl, h⟩
      · -- Without a sign the plus would be the first digit.
        have hplus := h.2.1 '+' (by rw [← List.nil_append digits, ← heq]; exact List.mem_cons_self)
        exact absurd hplus (by decide)
      · rw [(List.cons.inj heq).2]
        exact h
  · rename_i hplus
    constructor
    · exact fun h => ⟨[], s, rfl, Or.inl rfl, h⟩
    · rintro ⟨sign, digits, rfl, rfl | rfl, h⟩
      · exact h
      · exact absurd rfl (hplus digits)

/-- A text writes one number. -/
theorem Writes.unique (hn : Writes s n) (hm : Writes s m) : n = m := by
  have h₁ : decimal? (max n m + 1) s = some n := decimal?_eq_some.mpr ⟨hn, by omega⟩
  have h₂ : decimal? (max n m + 1) s = some m := decimal?_eq_some.mpr ⟨hm, by omega⟩
  exact Option.some.inj (h₁.symm.trans h₂)

/-- The text of a number writes it. -/
theorem writes_write (n : Nat) : Writes (write 10 n) n :=
  ⟨[], write 10 n, rfl, Or.inl rfl, Nat.toDigits_ne_nil, fun _ => Nat.isDigit_of_mem_toDigits (by decide) (by decide),
    Nat.ofDigitChars_ten_toDigits⟩

example : Writes "+0080".toList 80 :=
  ⟨['+'], "0080".toList, rfl, Or.inr rfl, by decide, List.all_eq_true.mp (by decide), by decide⟩

end FrameSentry.Numeral
