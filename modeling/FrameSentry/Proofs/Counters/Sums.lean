import Mathlib.Data.List.Forall2
import Mathlib.Data.List.GetD
import Mathlib.Data.List.Infix
import Mathlib.Data.UInt
import FrameSentry.Counters

/-! The sums of the counters. Words are added one after the other, and a total that is no word any more stays at the
    greatest word. So what comes out is the exact sum as far as it is a word, in whatever order the words stand. From
    the rows of values, one row for each counter with a value for each processor, come the eight counters in their
    order, and from the first five of these the number of frames. -/

namespace FrameSentry

/-! ### Totals -/

theorem foldl_saturatingAdd_toNat (l : List UInt64) (a : UInt64) :
    (l.foldl saturatingAdd a).toNat = min (a.toNat + (l.map UInt64.toNat).sum) (wordLimit - 1) := by
  induction l generalizing a with
  | nil =>
    have := a.toNat_lt
    simp only [List.foldl_nil, List.map_nil, List.sum_nil, wordLimit]
    omega
  | cons b rest ih =>
    rw [List.foldl_cons, ih, saturatingAdd_toNat, List.map_cons, List.sum_cons]
    omega

theorem saturatingSum_toNat (l : List UInt64) :
    (saturatingSum l).toNat = min (l.map UInt64.toNat).sum (wordLimit - 1) :=
  (foldl_saturatingAdd_toNat l 0).trans (by simp)

theorem toNat_sum (l : List UInt64) : l.sum.toNat = (l.map UInt64.toNat).sum % wordLimit := by
  induction l with
  | nil => rfl
  | cons a rest ih =>
    rw [List.sum_cons, UInt64.toNat_add, ih, List.map_cons, List.sum_cons]
    exact Nat.add_mod_mod _ _ _

/-- As long as the sum is a word, to stop at the greatest word changes nothing. -/
theorem saturatingSum_eq_sum {l : List UInt64} (hl : (l.map UInt64.toNat).sum < wordLimit) :
    saturatingSum l = l.sum := by
  apply UInt64.toNat.inj
  rw [saturatingSum_toNat, toNat_sum, Nat.mod_eq_of_lt hl]
  omega

/-- When the greatest word is reached depends on the order of the words, the sum does not. -/
theorem saturatingSum_perm {l l' : List UInt64} (hl : l.Perm l') : saturatingSum l = saturatingSum l' := by
  apply UInt64.toNat.inj
  rw [saturatingSum_toNat, saturatingSum_toNat, (hl.map UInt64.toNat).sum_nat]

/-- The totals while words are added from the front, the first of them before any word is added. -/
def runningTotals (l : List UInt64) : List UInt64 := l.scanl saturatingAdd 0

/-- Each running total is the sum of the words so far. -/
theorem runningTotals_eq (l : List UInt64) : runningTotals l = l.inits.map saturatingSum := by
  unfold runningTotals
  apply List.ext_getElem
  · rw [List.length_scanl, List.length_map, List.length_inits]
  · intro i hi hi'
    rw [List.getElem_scanl, List.getElem_map, List.getElem_inits]
    rfl

/-- No addition gives less than it adds to, as one that wraps around does. -/
theorem le_saturatingAdd (a b : UInt64) : a ≤ saturatingAdd a b := by
  have := a.toNat_lt
  rw [UInt64.le_iff_toNat_le, saturatingAdd_toNat]
  unfold wordLimit
  omega

theorem le_of_mem_scanl {l : List UInt64} {a total : UInt64} (htotal : total ∈ l.scanl saturatingAdd a) :
    a ≤ total := by
  -- for every start at once: the totals behind the first word start from its total
  induction l generalizing a with
  | nil =>
    rw [List.scanl_nil, List.mem_singleton] at htotal
    exact UInt64.le_of_eq htotal.symm
  | cons b rest ih =>
    rw [List.scanl_cons, List.mem_cons] at htotal
    rcases htotal with rfl | htotal
    · exact UInt64.le_refl _
    · exact UInt64.le_trans (le_saturatingAdd a b) (ih htotal)

theorem pairwise_scanl (l : List UInt64) (a : UInt64) : (l.scanl saturatingAdd a).Pairwise (· ≤ ·) := by
  induction l generalizing a with
  | nil => exact List.pairwise_singleton _ _
  | cons b rest ih =>
    rw [List.scanl_cons, List.pairwise_cons]
    exact ⟨fun total htotal => UInt64.le_trans (le_saturatingAdd a b) (le_of_mem_scanl htotal), ih _⟩

/-! ### The counters and their list -/

namespace Outcome

theorem map_index_all : all.map index = List.range 8 := rfl

theorem index_lt (o : Outcome) : o.index < 8 := by cases o <;> decide

theorem all_index (o : Outcome) : all[o.index]? = some o := by cases o <;> rfl

end Outcome

namespace Counters

theorem ext_get {c c' : Counters} (hget : ∀ o, c.get o = c'.get o) : c = c' := by
  obtain ⟨_, _, _, _, _, _, _, _⟩ := c
  rw [mk.injEq]
  exact ⟨hget .truncated, hget .unsupportedLinkType, hget .unsupportedTransport, hget .noMatch, hget .matched,
    hget .captured, hget .reserveFailed, hget .copyFailed⟩

theorem get_ofList (l : List UInt64) (o : Outcome) : (ofList l).get o = l.getD o.index 0 := by
  cases o <;> rfl

/-- In the list each counter stands at the place of its outcome. -/
theorem getElem?_toList (c : Counters) (o : Outcome) : c.toList[o.index]? = some (c.get o) := by
  unfold toList
  rw [List.getElem?_map, o.all_index, Option.map_some]

/-- A list is read as the words at the eight places, zero where it has none. -/
theorem toList_ofList (l : List UInt64) : (ofList l).toList = (List.range 8).map fun i => l.getD i 0 := by
  unfold toList
  rw [← Outcome.map_index_all, List.map_map]
  exact List.map_congr_left fun o _ => get_ofList l o

/-- Listed and read again, the counters are the same. -/
theorem ofList_toList (c : Counters) : ofList c.toList = c := by
  refine ext_get fun o => ?_
  rw [get_ofList, List.getD_eq_getElem?_getD, getElem?_toList, Option.getD_some]

/-- Read and listed again, eight words are the same. -/
theorem toList_ofList_eight {l : List UInt64} (hl : l.length = 8) : (ofList l).toList = l := by
  rw [toList_ofList]
  apply List.ext_getElem
  · rw [List.length_map, List.length_range, hl]
  · intro i _ hi
    rw [List.getElem_map, List.getElem_range, List.getD_eq_getElem _ _ hi]

/-! ### Summing over the processors -/

/-- Each counter is the sum of the row at its place. -/
theorem get_sumPerCpu_row (rows : List (List UInt64)) (o : Outcome) :
    (sumPerCpu rows).get o = saturatingSum (rows.getD o.index []) := by
  have hnone : saturatingSum [] = 0 := rfl
  unfold sumPerCpu
  rw [get_ofList, ← hnone, List.getD_map]

/-- Only the rows at the eight places matter, and in each of them not the order. -/
theorem sumPerCpu_congr {rows rows' : List (List UInt64)}
    (hrows : ∀ o : Outcome, (rows.getD o.index []).Perm (rows'.getD o.index [])) :
    sumPerCpu rows = sumPerCpu rows' := by
  refine ext_get fun o => ?_
  rw [get_sumPerCpu_row, get_sumPerCpu_row]
  exact saturatingSum_perm (hrows o)

theorem sumPerCpu_take (rows : List (List UInt64)) : sumPerCpu (rows.take 8) = sumPerCpu rows := by
  refine sumPerCpu_congr fun o => ?_
  rw [List.getD_eq_getElem?_getD, List.getD_eq_getElem?_getD, List.getElem?_take_of_lt o.index_lt]

theorem sumPerCpu_perm {rows rows' : List (List UInt64)} (hrows : List.Forall₂ List.Perm rows rows') :
    sumPerCpu rows = sumPerCpu rows' := by
  -- at every place, also behind the last row, where neither has a value
  have hrow : ∀ i, (rows.getD i []).Perm (rows'.getD i []) := by
    induction hrows with
    | nil => exact fun _ => .refl _
    | cons hfirst _ ih =>
      rintro (_ | i)
      · exact hfirst
      · exact ih i
  exact sumPerCpu_congr fun o => hrow o.index

/-- The number of frames is what the five counters of judgements add up to, unless that is more than a word holds. -/
theorem frames_toNat (c : Counters) : c.frames.toNat = min (c.truncated.toNat + c.unsupportedLinkType.toNat +
    c.unsupportedTransport.toNat + c.noMatch.toNat + c.matched.toNat) (wordLimit - 1) := by
  unfold frames
  rw [saturatingSum_toNat]
  simp only [List.map_cons, List.map_nil, List.sum_cons, List.sum_nil, Nat.add_zero, Nat.add_assoc]

/-- To sum over the processors is exact up to the greatest word and independent of order, whatever number of rows there
    are and of values in each. Each counter is the sum of the row at its place, zero where there is no row; rows after
    the eighth are ignored; and in every row the processors may be permuted. Listed, the counters are these eight sums in
    the order of the rows, and listing and reading undo one another. The number of frames of any counters is the exact
    sum of five of them up to the greatest word. And no addition wraps around: while any words are summed, each total is
    the exact sum of the words so far up to the greatest word, and none is less than one before. -/
theorem processor_sums_exact (rows : List (List UInt64)) :
    (∀ o : Outcome, ((sumPerCpu rows).get o).toNat =
      min ((rows.getD o.index []).map UInt64.toNat).sum (wordLimit - 1)) ∧
    (∀ o : Outcome, rows.length ≤ o.index → (sumPerCpu rows).get o = 0) ∧
    sumPerCpu (rows.take 8) = sumPerCpu rows ∧
    (∀ rows', List.Forall₂ List.Perm rows rows' → sumPerCpu rows' = sumPerCpu rows) ∧
    (sumPerCpu rows).toList.map UInt64.toNat =
      (List.range 8).map (fun i => min ((rows.getD i []).map UInt64.toNat).sum (wordLimit - 1)) ∧
    (∀ o : Outcome, (sumPerCpu rows).toList[o.index]? = some ((sumPerCpu rows).get o)) ∧
    (∀ c : Counters, ofList c.toList = c) ∧
    (∀ words : List UInt64, words.length = 8 → (ofList words).toList = words) ∧
    (∀ c : Counters, c.frames.toNat = min (c.truncated.toNat + c.unsupportedLinkType.toNat +
      c.unsupportedTransport.toNat + c.noMatch.toNat + c.matched.toNat) (wordLimit - 1)) ∧
    (∀ words : List UInt64, (runningTotals words).getLast? = some (saturatingSum words) ∧
      (runningTotals words).map UInt64.toNat =
        words.inits.map (fun front => min (front.map UInt64.toNat).sum (wordLimit - 1)) ∧
      (runningTotals words).Pairwise (· ≤ ·)) := by
  have hget : ∀ o : Outcome, ((sumPerCpu rows).get o).toNat =
      min ((rows.getD o.index []).map UInt64.toNat).sum (wordLimit - 1) := fun o => by
    rw [get_sumPerCpu_row, saturatingSum_toNat]
  refine ⟨hget, fun o ho => ?_, sumPerCpu_take rows, fun rows' hrows => (sumPerCpu_perm hrows).symm, ?_,
    getElem?_toList _, ofList_toList, fun words => toList_ofList_eight, frames_toNat,
    fun words => ⟨?_, ?_, pairwise_scanl words 0⟩⟩
  · rw [get_sumPerCpu_row, List.getD_eq_default _ _ ho]
    rfl
  · unfold toList
    rw [← Outcome.map_index_all, List.map_map, List.map_map]
    exact List.map_congr_left fun o _ => hget o
  · exact List.getLast?_scanl
  · rw [runningTotals_eq, List.map_map]
    exact List.map_congr_left fun front _ => saturatingSum_toNat front

/-- Nine rows of different lengths, of which the first sums to more than a word, and the same rows with the processors
    the other way round; then only three of the rows; and eight words that are read and listed. -/
theorem processor_sums_exact_full :
    let rows : List (List UInt64) := [[18446744073709551615, 1], [10, 0, 7], [], [5], [2, 2], [], [], [3], [9]]
    let c := sumPerCpu rows
    sumPerCpu (rows.map List.reverse) = c ∧ c.toList.map UInt64.toNat = [wordLimit - 1, 17, 0, 5, 4, 0, 0, 3] ∧
      c.frames.toNat = wordLimit - 1 ∧ (sumPerCpu (rows.take 3)).noMatch = 0 ∧
      (ofList [1, 2, 3, 4, 5, 6, 7, 8]).toList = [1, 2, 3, 4, 5, 6, 7, 8] := by
  intro rows c
  have hperm : List.Forall₂ List.Perm rows (rows.map List.reverse) := by
    rw [List.forall₂_map_right_iff, List.forall₂_same]
    exact fun row _ => (List.reverse_perm row).symm
  have hmissing := (processor_sums_exact (rows.take 3)).2.1 .noMatch (by decide)
  obtain ⟨-, -, -, horder, hlist, -, -, hread, hframes, -⟩ := processor_sums_exact rows
  exact ⟨horder _ hperm, hlist.trans (by decide), (hframes c).trans (by decide +kernel), hmissing, hread _ rfl⟩

end Counters
end FrameSentry
