import Mathlib.Data.List.DropRight
import FrameSentry.Text.Blank

/-! Pieces of a text, and what is left of a piece without the white space around it. Both are said by what they come to
    and not by how they are looked for: the pieces are free of the separator, and the text is these pieces with separators
    between them; and what is left has white space alone before it and behind it, and neither begins nor ends with any. -/

namespace FrameSentry
variable {sep : Char} {s core before after piece : List Char} {pieces : List (List Char)}

/-! ### Pieces -/

/-- The text is these pieces with separators between them. -/
structure Pieces (sep : Char) (s : List Char) (pieces : List (List Char)) : Prop where
  nonempty : pieces ≠ []
  free : ∀ piece ∈ pieces, sep ∉ piece
  joined : [sep].intercalate pieces = s

theorem splitAt_eq_splitOn (sep : Char) (s : List Char) : splitAt sep s = s.splitOn sep := by
  induction s with
  | nil => rfl
  | cons c rest ih =>
    rw [splitAt, List.splitOn_cons_eq_if_modifyHead, ih]
    by_cases hsep : c = sep
    · rw [if_pos hsep, if_pos (beq_iff_eq.mpr hsep)]
    · rw [if_neg hsep, if_neg (mt beq_iff_eq.mp hsep)]
      cases hrest : List.splitOn sep rest with
      | nil => exact absurd hrest (List.splitOn_ne_nil sep rest)
      | cons piece pieces => rfl

theorem free_of_mem_splitAt (h : piece ∈ splitAt sep s) : sep ∉ piece := by
  induction s generalizing piece with
  | nil =>
    rw [List.mem_singleton.mp h]
    exact List.not_mem_nil
  | cons c rest ih =>
    rw [splitAt] at h
    split at h
    · rcases List.mem_cons.mp h with rfl | h
      · exact List.not_mem_nil
      · exact ih h
    · rename_i hc
      split at h <;> rename_i hrest
      · rw [List.mem_singleton.mp h, List.mem_singleton, eq_comm]
        exact hc
      · rcases List.mem_cons.mp h with rfl | h
        · rw [List.mem_cons, not_or, eq_comm]
          exact ⟨hc, ih (hrest ▸ List.mem_cons_self)⟩
        · exact ih (hrest ▸ List.mem_cons_of_mem _ h)

/-- A text has these pieces and no others. -/
theorem pieces_iff : Pieces sep s pieces ↔ pieces = splitAt sep s := by
  constructor
  · rintro ⟨hsome, hfree, rfl⟩
    rw [splitAt_eq_splitOn, List.splitOn_intercalate sep hfree hsome]
  · rintro rfl
    refine ⟨?_, fun piece => free_of_mem_splitAt, ?_⟩ <;> rw [splitAt_eq_splitOn]
    · exact List.splitOn_ne_nil sep s
    · exact List.intercalate_splitOn sep

/-! ### White space around a text -/

/-- The text is `core` with white space around it, and `core` neither begins nor ends with any. -/
structure Stripped (s core : List Char) : Prop where
  around : ∃ before after, s = before ++ core ++ after ∧ (∀ c ∈ before, isBlank c = true) ∧ ∀ c ∈ after, isBlank c = true
  first : ∀ c ∈ core.head?, isBlank c = false
  last : ∀ c ∈ core.getLast?, isBlank c = false

theorem dropWhile_blank (hbefore : ∀ c ∈ before, isBlank c = true) (hfirst : ∀ c ∈ core.head?, isBlank c = false) :
    (before ++ core).dropWhile isBlank = core := by
  rw [List.dropWhile_append_of_pos hbefore]
  cases core with
  | nil => rfl
  | cons c rest => exact List.dropWhile_cons_of_neg (by simp [hfirst c rfl])

theorem head?_dropWhile_blank {c : Char} (h : c ∈ (s.dropWhile isBlank).head?) : isBlank c = false := by
  have hnot := List.head?_dropWhile_not isBlank s
  rw [Option.mem_def.mp h] at hnot
  exact hnot

theorem Stripped.eq_trim (h : Stripped s core) : core = trim s := by
  obtain ⟨⟨before, after, rfl, hbefore, hafter⟩, hfirst, hlast⟩ := h
  unfold trim
  cases hcore : core with
  | nil =>
    have hblank : ∀ c ∈ before ++ [] ++ after, isBlank c = true := by
      rw [List.append_nil]
      exact List.forall_mem_append.mpr ⟨hbefore, hafter⟩
    rw [List.dropWhile_eq_nil_iff.mpr hblank]
    rfl
  | cons c rest =>
    rw [hcore] at hfirst hlast
    have hback : ∀ c ∈ after.reverse, isBlank c = true := fun c hc => hafter c (List.mem_reverse.mp hc)
    have hrest : ∀ x ∈ (c :: rest ++ after).head?, isBlank x = false := hfirst
    rw [List.append_assoc, dropWhile_blank hbefore hrest, List.reverse_append,
      dropWhile_blank hback (by rwa [List.head?_reverse]), List.reverse_reverse]

theorem stripped_trim (s : List Char) : Stripped s (trim s) := by
  have hprefix : trim s <+: s.dropWhile isBlank := List.rdropWhile_prefix isBlank _
  refine ⟨⟨s.takeWhile isBlank, (s.dropWhile isBlank).rtakeWhile isBlank, ?_, ?_, ?_⟩, ?_, ?_⟩
  · rw [List.append_assoc, show trim s = (s.dropWhile isBlank).rdropWhile isBlank from rfl,
      List.rdropWhile_append_rtakeWhile, List.takeWhile_append_dropWhile]
  · exact fun c => List.mem_takeWhile_imp
  · exact fun c => List.mem_rtakeWhile_imp
  · intro c hc
    obtain ⟨rest, hrest⟩ := hprefix
    refine head?_dropWhile_blank (s := s) ?_
    rw [← hrest, List.head?_append, Option.mem_def.mp hc]
    rfl
  · intro c hc
    rw [← List.head?_reverse, trim, List.reverse_reverse] at hc
    exact head?_dropWhile_blank hc

/-- A text has one such `core`. -/
theorem stripped_iff : Stripped s core ↔ core = trim s :=
  ⟨Stripped.eq_trim, fun h => h ▸ stripped_trim s⟩

end FrameSentry
