import CatalogSearch.Proofs.Number.Order
import CatalogSearch.Proofs.Number.Rounding

/-!
# Differences

Rounding keeps the weak order: of two sizes the greater one is never rounded to an earlier
place.  So a sum with a finite number grows with its other summand, and a difference falls with
what is taken away.
-/

namespace CatalogSearch

namespace Magnitude

theorem nearestRank_bounds (num den : Nat) :
    rankBelow (num / den) ≤ nearestRank num den ∧
      nearestRank num den ≤ rankBelow (num / den) + 1 := by
  unfold nearestRank
  dsimp only
  split
  · omega
  · split <;> omega

theorem nearestRank_mono {num num' den : Nat} (hden : 0 < den) (h : num ≤ num') :
    nearestRank num den ≤ nearestRank num' den := by
  have hbelow : rankBelow (num / den) ≤ rankBelow (num' / den) := by
    by_contra hlt
    have hunits :
        unitsAt (rankBelow (num' / den) + 1) * den ≤ unitsAt (rankBelow (num / den)) * den :=
      Nat.mul_le_mul_right den (unitsAt_mono (Nat.lt_of_not_le hlt))
    have hfront := (unitsAt_rankBelow_div num hden).1
    have hback := (unitsAt_rankBelow_div num' hden).2
    omega
  have hbounds := nearestRank_bounds num den
  have hbounds' := nearestRank_bounds num' den
  rcases Nat.lt_or_eq_of_le hbelow with hlt | heq
  · omega
  · -- Both lie between the same neighbours, and only at one midpoint are they on no two sides.
    rw [← heq] at hbounds'
    by_cases hfront :
        2 * num < (unitsAt (rankBelow (num / den)) + unitsAt (rankBelow (num / den) + 1)) * den
    · have hrank : nearestRank num den = rankBelow (num / den) := if_pos hfront
      omega
    · by_cases hback :
          (unitsAt (rankBelow (num / den)) + unitsAt (rankBelow (num / den) + 1)) * den < 2 * num'
      · have hrank : nearestRank num' den = rankBelow (num / den) + 1 := by
          rw [heq] at hback ⊢
          exact (if_neg (Nat.not_lt.mpr (Nat.le_of_lt hback))).trans (if_pos hback)
        omega
      · have hsame : num = num' := by omega
        rw [hsame]

end Magnitude

namespace Binary64

open Magnitude

/-!
## Rounded sizes
-/

def roundedPlace (total : Int) : Int :=
  if total < 0 then -((Magnitude.nearest total.natAbs 1).rank : Int)
  else (Magnitude.nearest total.natAbs 1).rank

theorem roundedPlace_mono {total total' : Int} (h : total ≤ total') :
    roundedPlace total ≤ roundedPlace total' := by
  have hmono : forall m n : Nat, m ≤ n -> (nearest m 1).rank ≤ (nearest n 1).rank := by
    intro m n hmn
    have hrank := nearestRank_mono Nat.one_pos hmn
    exact min_le_min_right (2047 * binade) hrank
  unfold roundedPlace
  split
  · split
    · have hrank := hmono total'.natAbs total.natAbs (by omega)
      omega
    · omega
  · have hrank := hmono total.natAbs total'.natAbs (by omega)
    split <;> omega

theorem toUnits_mono {x y : Binary64} (h : x.le y = true) : x.toUnits ≤ y.toUnits := by
  rcases le_iff.mp h with ⟨hx, hy, hplace⟩
  cases x with
  | nan => cases hx
  | signed s a =>
      cases y with
      | nan => cases hy
      | signed t b =>
          have hmono : forall m n : Magnitude, m.rank ≤ n.rank -> m.units ≤ n.units :=
            fun _ _ hrank => unitsAt_mono hrank
          have hzero : forall m : Magnitude, m.rank = 0 -> m.units = 0 := by
            intro m hrank
            rw [units, hrank, unitsAt_zero]
          cases s with
          | true =>
              cases t with
              | true =>
                  have hunits := hmono b a (by simpa [place] using hplace)
                  simpa [toUnits] using hunits
              | false =>
                  simp only [toUnits, if_true, Bool.false_eq_true, if_false]
                  omega
          | false =>
              cases t with
              | true =>
                  simp only [place, if_true, Bool.false_eq_true, if_false] at hplace
                  have ha := hzero a (by omega)
                  have hb := hzero b (by omega)
                  simp [toUnits, ha, hb]
              | false =>
                  have hunits := hmono a b (by simpa [place] using hplace)
                  simpa [toUnits] using hunits

/-!
## Sums with a finite number
-/

variable {x y z : Binary64}

theorem place_bounds (hx : x.isNaN = false) :
    -(Magnitude.infinite.rank : Int) ≤ x.place ∧ x.place ≤ Magnitude.infinite.rank := by
  cases x with
  | nan => cases hx
  | signed s a =>
      have hrank : a.rank ≤ Magnitude.infinite.rank := a.rank_le
      cases s <;> simp only [place, if_true, Bool.false_eq_true, if_false] <;> omega

theorem place_finite_bounds (hx : x.isFinite = true) :
    -(Magnitude.infinite.rank : Int) < x.place ∧ x.place < Magnitude.infinite.rank := by
  cases x with
  | nan => cases hx
  | signed s a =>
      have hrank : a.rank < Magnitude.infinite.rank := of_decide_eq_true hx
      cases s <;> simp only [place, if_true, Bool.false_eq_true, if_false] <;> omega

theorem place_infinite (hx : x.isNaN = false) (hinfinite : x.isFinite = false) :
    x.place = -(Magnitude.infinite.rank : Int) ∨ x.place = Magnitude.infinite.rank := by
  cases x with
  | nan => cases hx
  | signed s a =>
      rw [eq_infinite_of_not_isFinite hinfinite]
      cases s with
      | true => exact Or.inl rfl
      | false => exact Or.inr rfl

theorem place_add (hx : x.isFinite = true) (hy : y.isFinite = true) :
    (x + y).place = roundedPlace (x.toUnits + y.toUnits) := by
  cases x with
  | nan => cases hx
  | signed s a =>
      cases y with
      | nan => cases hy
      | signed t b =>
          have ha : a.isFinite = true := hx
          have hb : b.isFinite = true := hy
          show (add (signed s a) (signed t b)).place = _
          simp only [add, ha, hb, Bool.not_true, Bool.false_eq_true, if_false]
          generalize toUnits (signed s a) + toUnits (signed t b) = total
          split
          · rename_i hzero
            subst hzero
            cases s <;> cases t <;> decide
          · unfold ofUnits roundedPlace place
            simp

theorem add_infinite (hx : x.isFinite = true) (hy : y.isNaN = false)
    (hinfinite : y.isFinite = false) : x + y = y := by
  cases x with
  | nan => cases hx
  | signed s a =>
      cases y with
      | nan => cases hy
      | signed t b =>
          have ha : a.isFinite = true := hx
          have hb : b.isFinite = false := hinfinite
          show add (signed s a) (signed t b) = signed t b
          simp only [add, ha, hb, Bool.not_true, Bool.not_false, Bool.false_eq_true, if_false,
            if_true]

theorem isNaN_finite_add (hx : x.isFinite = true) (hy : y.isNaN = false) :
    (x + y).isNaN = false := by
  cases hfinite : y.isFinite with
  | true => exact isNaN_add (isNaN_eq_false_of_isFinite hx) hfinite
  | false =>
      rw [add_infinite hx hy hfinite]
      exact hy

theorem add_le_add_left (hz : z.isFinite = true) (h : x.le y = true) :
    (z + x).le (z + y) = true := by
  rcases le_iff.mp h with ⟨hx, hy, hplace⟩
  refine le_iff.mpr ⟨isNaN_finite_add hz hx, isNaN_finite_add hz hy, ?_⟩
  cases hfirst : x.isFinite with
  | true =>
      cases hlast : y.isFinite with
      | true =>
          rw [place_add hz hfirst, place_add hz hlast]
          exact roundedPlace_mono (Int.add_le_add_left (toUnits_mono h) _)
      | false =>
          have hbounds := place_finite_bounds hfirst
          rw [add_infinite hz hy hlast]
          rcases place_infinite hy hlast with hlow | hhigh
          · omega
          · rw [hhigh]
            exact (place_bounds (isNaN_finite_add hz hx)).2
  | false =>
      rw [add_infinite hz hx hfirst]
      cases hlast : y.isFinite with
      | true =>
          have hbounds := place_finite_bounds hlast
          rcases place_infinite hx hfirst with hlow | hhigh
          · rw [hlow]
            exact (place_bounds (isNaN_finite_add hz hy)).1
          · omega
      | false =>
          rw [add_infinite hz hy hlast]
          exact hplace

theorem neg_le_neg (h : x.le y = true) : y.neg.le x.neg = true := by
  have hneg : forall w : Binary64, w.isNaN = false ->
      w.neg.isNaN = false ∧ w.neg.place = -w.place := by
    intro w hw
    cases w with
    | nan => cases hw
    | signed s a => cases s <;> simp [neg, isNaN, place]
  rcases le_iff.mp h with ⟨hx, hy, hplace⟩
  refine le_iff.mpr ⟨(hneg y hy).1, (hneg x hx).1, ?_⟩
  rw [(hneg y hy).2, (hneg x hx).2]
  exact Int.neg_le_neg hplace

/-- What is left of a finite number falls as more is taken away. -/
theorem sub_le_sub_left (hz : z.isFinite = true) (h : x.le y = true) :
    (z - y).le (z - x) = true :=
  add_le_add_left hz (neg_le_neg h)

end Binary64

end CatalogSearch
