import CatalogSearch.Fuzzy.Similarity
import CatalogSearch.Proofs.Number.Differences
import CatalogSearch.Proofs.Number.Range
import CatalogSearch.Proofs.Text.Words

/-!
# Ratios are numbers

No ratio divides by zero or one infinity by another as long as the lengths of the texts are
within the range of binary64, so every ratio is a number then.
-/

namespace CatalogSearch

namespace Binary64

variable {x y : Binary64}

theorem isNaN_max (hx : x.isNaN = false) (hy : y.isNaN = false) : (x.max y).isNaN = false := by
  unfold max
  split
  · exact hy
  · exact hx

theorem isNaN_finite_sub (hx : x.isFinite = true) (hy : y.isNaN = false) :
    (x - y).isNaN = false := by
  have hneg : y.neg.isNaN = false := by
    cases y with
    | nan => cases hy
    | signed t b => rfl
  exact isNaN_finite_add hx hneg

theorem isNaN_mul (hx : x.isNaN = false) (hy : y.isFinite = true) (hzero : y.place ≠ 0) :
    (x * y).isNaN = false := by
  cases x with
  | nan => cases hx
  | signed s a =>
      cases y with
      | nan => cases hy
      | signed t b =>
          have hb : b.isFinite = true := hy
          have hrank : b.rank ≠ 0 := by
            intro hrank
            apply hzero
            cases t <;> simp [place, hrank]
          show (mul (signed s a) (signed t b)).isNaN = false
          cases ha : a.isFinite with
          | true => simp only [mul, ha, hb, Bool.and_self, if_true]; rfl
          | false =>
              have hsize : a.rank ≠ 0 := by
                intro hsize
                rw [Magnitude.isFinite, hsize] at ha
                revert ha
                decide
              simp only [mul, ha, hb, hrank, hsize, or_self, Bool.false_and, Bool.false_eq_true,
                if_false]
              rfl

theorem mul_comm (x y : Binary64) : x * y = y * x := by
  show mul x y = mul y x
  cases x with
  | nan => cases y <;> rfl
  | signed s a =>
      cases y with
      | nan => rfl
      | signed t b =>
          simp only [mul, Bool.and_comm, Nat.mul_comm, or_comm, bne_comm (a := s)]

theorem isNaN_div (hx : x.isNaN = false) (hy : y.isFinite = true) (hzero : y.place ≠ 0) :
    (x / y).isNaN = false := by
  cases x with
  | nan => cases hx
  | signed s a =>
      cases y with
      | nan => cases hy
      | signed t b =>
          have hb : b.isFinite = true := hy
          have hrank : b.rank ≠ 0 := by
            intro hrank
            apply hzero
            cases t <;> simp [place, hrank]
          show (div (signed s a) (signed t b)).isNaN = false
          simp only [div, hb, hrank, if_true, if_false, Bool.not_true, Bool.false_eq_true]
          split <;> rfl

theorem place_ofNat_ne_zero {n : Nat} (h : 0 < n) : (ofNat n).place ≠ 0 := by
  have hone : 0 < Magnitude.nearestRank unitsPerOne 1 := by decide +kernel
  have hrank := Magnitude.nearestRank_mono Nat.one_pos (Nat.le_mul_of_pos_left unitsPerOne h)
  have hplace : (ofNat n).place =
      (Nat.min (Magnitude.nearestRank (n * unitsPerOne) 1) (2047 * binade) : Nat) := rfl
  have hpos : 0 < Nat.min (Magnitude.nearestRank (n * unitsPerOne) 1) (2047 * binade) :=
    Nat.lt_min.mpr ⟨by omega, by decide⟩
  rw [hplace]
  omega

theorem isNaN_div_ofNat {n : Nat} (hx : x.isNaN = false) (hpos : 0 < n)
    (hn : n < Magnitude.overflow) : (x / ofNat n).isNaN = false := by
  have hfinite : (ofNat n).isFinite = true :=
    (isFinite_ofQuotient_iff false Nat.one_pos).mpr (by rwa [Nat.mul_one])
  exact isNaN_div hx hfinite (place_ofNat_ne_zero hpos)

end Binary64

/-!
## Lengths of words
-/

namespace Text

def span (words : List (List Char)) : Nat :=
  (words.map fun word => word.length + 1).sum

theorem span_cons (word : List Char) (rest : List (List Char)) :
    span (word :: rest) = word.length + 1 + span rest := rfl

theorem length_joinWords_le (words : List (List Char)) : (joinWords words).length ≤ span words := by
  induction words with
  | nil => exact Nat.zero_le _
  | cons word rest ih =>
      cases rest with
      | nil => simp [span]
      | cons next rest =>
          rw [joinWords_cons_cons, List.length_append, List.length_cons, span_cons]
          omega

theorem span_wordsAfter_le (current text : List Char) :
    span (wordsAfter current text) ≤ current.length + text.length + 1 := by
  induction text generalizing current with
  | nil =>
      rw [wordsAfter]
      split <;> simp [span]
  | cons c text ih =>
      rw [wordsAfter]
      split
      · have hrest := ih []
        split
        · rw [List.length_nil] at hrest
          rw [List.length_cons]
          omega
        · rw [span_cons, List.length_reverse, List.length_cons]
          rw [List.length_nil] at hrest
          omega
      · have hrest := ih (c :: current)
        rw [List.length_cons] at hrest
        rw [List.length_cons]
        omega

theorem span_words_le (text : List Char) : span (words text) ≤ text.length + 1 := by
  have hspan := span_wordsAfter_le [] text
  rwa [List.length_nil, Nat.zero_add] at hspan

theorem span_perm {words other : List (List Char)} (h : words.Perm other) :
    span words = span other :=
  (h.map _).sum_nat

theorem span_sublist {words other : List (List Char)} (h : words.Sublist other) :
    span words ≤ span other := by
  induction h with
  | slnil => exact Nat.le_refl _
  | cons word _ ih =>
      rw [span_cons]
      omega
  | cons_cons word _ ih =>
      rw [span_cons, span_cons]
      omega

theorem eraseDups_sublist (words : List (List Char)) : words.eraseDups.Sublist words := by
  cases words with
  | nil => exact List.Sublist.slnil
  | cons word rest =>
      rw [List.eraseDups_cons]
      exact (eraseDups_sublist _).trans List.filter_sublist |>.cons_cons word
termination_by words.length
decreasing_by exact Nat.lt_succ_of_le (List.length_filter_le _ _)

end Text

/-!
## The ratios
-/

namespace Similarity

open Binary64

theorem isNaN_ratio {a b : List Char} (h : a.length + b.length < Magnitude.overflow) :
    (ratio a b).isNaN = false := by
  unfold ratio
  dsimp only
  split
  · rfl
  · rename_i htotal
    have hshare : (ofNat (distance a b) / ofNat (a.length + b.length)).isNaN = false :=
      isNaN_div_ofNat rfl (Nat.pos_of_ne_zero htotal) h
    have hrest := isNaN_finite_sub (x := ofNat 1) (by decide +kernel) hshare
    rw [mul_comm]
    exact isNaN_mul hrest (by decide +kernel) (by decide +kernel)

theorem isNaN_greatest {ratios : List Binary64}
    (h : forall x : Binary64, x ∈ ratios -> x.isNaN = false) : (greatest ratios).isNaN = false := by
  have hfold : forall first : Binary64, first.isNaN = false ->
      (ratios.foldl Binary64.max first).isNaN = false := by
    induction ratios with
    | nil => exact fun _ hfirst => hfirst
    | cons x rest ih =>
        intro first hfirst
        exact ih (fun other hmem => h other (List.mem_cons_of_mem x hmem)) _
          (isNaN_max hfirst (h x List.mem_cons_self))
  exact hfold zero rfl

theorem length_le_of_mem_parts {short long part : List Char} (h : part ∈ parts short long) :
    part.length ≤ long.length := by
  unfold parts at h
  dsimp only at h
  rcases List.mem_append.mp h with hfront | hback
  · rcases List.mem_append.mp (List.mem_filter.mp hfront).1 with hleading | hinner
    · rcases List.mem_map.mp hleading with ⟨i, _, rfl⟩
      rw [List.length_take]
      omega
    · rcases List.mem_map.mp hinner with ⟨i, _, rfl⟩
      rw [List.length_take, List.length_drop]
      omega
  · rcases List.mem_map.mp (List.mem_filter.mp hback).1 with ⟨i, _, rfl⟩
    rw [List.length_drop]
    omega

theorem isNaN_bestPart {short long : List Char}
    (h : short.length + long.length < Magnitude.overflow) :
    (bestPart short long).isNaN = false := by
  apply isNaN_greatest
  intro x hmem
  rcases List.mem_map.mp hmem with ⟨part, hpart, rfl⟩
  have hlength := length_le_of_mem_parts hpart
  exact isNaN_ratio (by omega)

theorem isNaN_partialRatio {a b : List Char} (h : a.length + b.length < Magnitude.overflow) :
    (partialRatio a b).isNaN = false := by
  have hswapped : b.length + a.length < Magnitude.overflow := by omega
  unfold partialRatio
  split
  · rfl
  · split
    · exact isNaN_bestPart h
    · split
      · exact isNaN_bestPart hswapped
      · exact isNaN_max (isNaN_bestPart h) (isNaN_bestPart hswapped)

theorem isNaN_remainder {distance total : Nat} (h : total < Magnitude.overflow) :
    (remainder distance total).isNaN = false := by
  unfold remainder
  split
  · rfl
  · rename_i htotal
    apply isNaN_finite_sub (by decide +kernel)
    apply isNaN_div_ofNat _ (Nat.pos_of_ne_zero htotal) h
    rw [mul_comm]
    exact isNaN_mul rfl (by decide +kernel) (by decide +kernel)

/-- The words that are shared or not shared are no longer than all words. -/
theorem span_sharedWords_le (a b : List (List Char)) :
    Text.span (sharedWords a b).both ≤ Text.span a ∧
      Text.span (sharedWords a b).first ≤ Text.span a ∧
      Text.span (sharedWords a b).second ≤ Text.span b := by
  have hpart : forall (words : List (List Char)) (keep : List Char -> Bool),
      Text.span ((sorted words.eraseDups).filter keep) ≤ Text.span words := by
    intro words keep
    calc
      Text.span ((sorted words.eraseDups).filter keep) ≤ Text.span (sorted words.eraseDups) :=
        Text.span_sublist List.filter_sublist
      _ = Text.span words.eraseDups := Text.span_perm (List.mergeSort_perm _ _)
      _ ≤ Text.span words := Text.span_sublist (Text.eraseDups_sublist words)
  exact ⟨hpart a _, hpart a _, hpart b _⟩

theorem length_joinWords_sorted_le (words : List (List Char)) :
    (Text.joinWords (sorted words)).length ≤ Text.span words := by
  have hspan : Text.span (sorted words) = Text.span words :=
    Text.span_perm (List.mergeSort_perm _ _)
  rw [← hspan]
  exact Text.length_joinWords_le _

section

variable {a b : List (List Char)}

theorem isNaN_sortedRatio (h : Text.span a + Text.span b < Magnitude.overflow) :
    (sortedRatio a b).isNaN = false := by
  have ha := length_joinWords_sorted_le a
  have hb := length_joinWords_sorted_le b
  exact isNaN_ratio (by omega)

theorem isNaN_partialWordRatio (h : Text.span a + Text.span b < Magnitude.overflow) :
    (partialWordRatio a b).isNaN = false := by
  have ha := length_joinWords_sorted_le a
  have hb := length_joinWords_sorted_le b
  have hwhole : (partialRatio (Text.joinWords (sorted a))
      (Text.joinWords (sorted b))).isNaN = false := isNaN_partialRatio (by omega)
  rcases span_sharedWords_le a b with ⟨_, hfirst, hsecond⟩
  have hfirst' := Text.length_joinWords_le (sharedWords a b).first
  have hsecond' := Text.length_joinWords_le (sharedWords a b).second
  unfold partialWordRatio
  dsimp only
  split
  · rfl
  · split
    · exact hwhole
    · exact isNaN_max hwhole (isNaN_partialRatio (by omega))

theorem isNaN_sharedRatio (h : 3 * (Text.span a + Text.span b) + 2 < Magnitude.overflow) :
    (sharedRatio a b).isNaN = false := by
  rcases span_sharedWords_le a b with ⟨hboth, hfirst, hsecond⟩
  have hboth' := Text.length_joinWords_le (sharedWords a b).both
  have hfirst' := Text.length_joinWords_le (sharedWords a b).first
  have hsecond' := Text.length_joinWords_le (sharedWords a b).second
  have hgap : (if (Text.joinWords (sharedWords a b).both).length = 0 then 0 else 1) ≤ 1 := by
    split <;> omega
  unfold sharedRatio
  dsimp only
  split
  · rfl
  · split
    · exact isNaN_remainder (by omega)
    · refine isNaN_max (isNaN_max ?_ ?_) ?_ <;> exact isNaN_remainder (by omega)

end

theorem isNaN_weightedRatio {a b : List Char}
    (h : 3 * (a.length + b.length + 2) + 2 < Magnitude.overflow) :
    (weightedRatio a b).isNaN = false := by
  have ha := Text.span_words_le a
  have hb := Text.span_words_le b
  have hdirect : (ratio a b).isNaN = false := isNaN_ratio (by omega)
  have hwordWeight : forall x : Binary64, x.isNaN = false -> (x * wordWeight).isNaN = false :=
    fun _ hx => isNaN_mul hx (by decide +kernel) (by decide +kernel)
  have hpartWeight : forall x quotient : Binary64, x.isNaN = false ->
      (x * partWeight quotient).isNaN = false := by
    intro x quotient hx
    unfold partWeight
    split
    · exact isNaN_mul hx (by decide +kernel) (by decide +kernel)
    · exact isNaN_mul hx (by decide +kernel) (by decide +kernel)
  unfold weightedRatio
  dsimp only
  split
  · rfl
  · split
    · refine isNaN_max hdirect (hwordWeight _ (isNaN_max ?_ ?_))
      · exact isNaN_sharedRatio (by omega)
      · exact isNaN_sortedRatio (by omega)
    · refine isNaN_max (isNaN_max hdirect (hpartWeight _ _ ?_)) (hpartWeight _ _ (hwordWeight _ ?_))
      · exact isNaN_partialRatio (by omega)
      · exact isNaN_partialWordRatio (by omega)

end Similarity

end CatalogSearch
