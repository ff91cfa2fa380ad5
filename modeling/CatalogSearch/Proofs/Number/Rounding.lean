import CatalogSearch.Number.Magnitude
import Mathlib.Tactic.Linarith
import Mathlib.Tactic.Ring

/-!
# Rounding to the nearest magnitude

Neighbouring places are a power of two of units apart, so sizes grow with the
rank and every size lies between two neighbours.  A quotient is rounded to a
place exactly when it lies between the midpoints on both sides of it, the
midpoints themselves belonging to the even place.
-/

namespace CatalogSearch

namespace Magnitude

/-!
## Neighbouring places
-/

/-- The power with its exponent as a variable, so that it is never evaluated. -/
theorem unitsPerOne_eq {exponent : Nat} (h : exponent = 1074) : unitsPerOne = 2 ^ exponent := by
  subst h
  unfold unitsPerOne
  exact Eq.refl _

theorem binade_eq : binade = 2 ^ 52 := rfl

theorem eq_infinite_of_not_isFinite {m : Magnitude} (h : m.isFinite = false) : m = infinite := by
  cases m with
  | mk rank rank_le =>
      have hlarge : ¬ rank < 2047 * binade := by simpa [isFinite] using h
      simp only [infinite, Magnitude.mk.injEq]
      omega

theorem unitsAt_of_lt {rank : Nat} (h : rank < binade) : unitsAt rank = rank := by
  simp [unitsAt, h]

theorem unitsAt_binade (index offset : Nat) (h : offset < binade) :
    unitsAt ((index + 1) * binade + offset) = (binade + offset) * 2 ^ index := by
  have hpos : 0 < binade := by simp [binade]
  have hle : ¬ (index + 1) * binade + offset < binade := by
    rw [Nat.add_one_mul]
    omega
  have hdiv : ((index + 1) * binade + offset) / binade = index + 1 := by
    rw [Nat.mul_comm, Nat.mul_add_div hpos, Nat.div_eq_of_lt h, Nat.add_zero]
  have hmod : ((index + 1) * binade + offset) % binade = offset := by
    rw [Nat.mul_comm, Nat.mul_add_mod, Nat.mod_eq_of_lt h]
  rw [unitsAt, if_neg hle, hdiv, hmod, Nat.add_sub_cancel, Nat.pow_eq]

theorem unitsAt_succ (rank : Nat) :
    unitsAt (rank + 1) = unitsAt rank + 2 ^ (rank / binade - 1) := by
  have hpos : 0 < binade := by simp [binade]
  have hsplit : binade * (rank / binade) + rank % binade = rank := Nat.div_add_mod rank binade
  have hmod : rank % binade < binade := Nat.mod_lt rank hpos
  cases hindex : rank / binade with
  | zero =>
      have hrank : rank < binade := by
        rw [hindex] at hsplit
        omega
      by_cases hnext : rank + 1 < binade
      · simp [unitsAt_of_lt hrank, unitsAt_of_lt hnext]
      · have hend : rank + 1 = (0 + 1) * binade + 0 := by omega
        have hrankEq : rank = binade - 1 := by omega
        rw [hend, unitsAt_binade 0 0 hpos, unitsAt_of_lt hrank, hrankEq]
        omega
  | succ index =>
      have hrank : rank = (index + 1) * binade + rank % binade := by
        rw [hindex] at hsplit
        rw [Nat.mul_comm (index + 1)]
        omega
      rw [Nat.add_sub_cancel]
      generalize rank % binade = offset at hrank hmod
      subst hrank
      rw [unitsAt_binade index offset hmod]
      by_cases hnext : offset + 1 < binade
      · rw [Nat.add_assoc, unitsAt_binade index (offset + 1) hnext]
        ring
      · have hoffset : offset + 1 = binade := by omega
        have hend : (index + 1) * binade + offset + 1 = (index + 1 + 1) * binade + 0 := by
          rw [Nat.add_assoc, hoffset]
          ring
        rw [hend, unitsAt_binade (index + 1) 0 hpos, pow_succ, ← hoffset]
        ring

theorem unitsAt_lt_succ (rank : Nat) : unitsAt rank < unitsAt (rank + 1) := by
  rw [unitsAt_succ]
  have hpow : 0 < 2 ^ (rank / binade - 1) := Nat.two_pow_pos _
  omega

theorem unitsAt_strictMono {a b : Nat} (h : a < b) : unitsAt a < unitsAt b := by
  induction b with
  | zero => omega
  | succ b ih =>
      rcases Nat.lt_succ_iff_lt_or_eq.mp h with hlt | heq
      · exact Nat.lt_trans (ih hlt) (unitsAt_lt_succ b)
      · rw [heq]
        exact unitsAt_lt_succ b

theorem unitsAt_mono {a b : Nat} (h : a ≤ b) : unitsAt a ≤ unitsAt b := by
  rcases Nat.lt_or_eq_of_le h with hlt | heq
  · exact Nat.le_of_lt (unitsAt_strictMono hlt)
  · rw [heq]

/-!
## The place below a size
-/

/-- The place below a size of at least two binades, as its binade and the offset in it. -/
theorem rankBelow_of_le {size : Nat} (h : 2 * binade ≤ size) :
    exists index offset, offset < binade ∧ rankBelow size = (index + 1) * binade + offset ∧
      (binade + offset) * 2 ^ index ≤ size ∧ size < (binade + offset + 1) * 2 ^ index := by
  have hne : size ≠ 0 := by
    intro hzero
    simp [hzero, binade] at h
  have hlog : 53 ≤ size.log2 := (Nat.le_log2 hne).mpr (by simpa [binade] using h)
  let index := size.log2 - 52
  have hpowPos : 0 < 2 ^ index := Nat.two_pow_pos _
  have hlow : binade * 2 ^ index ≤ size := by
    have hle := Nat.log2_self_le hne
    have hpow : 2 ^ size.log2 = binade * 2 ^ index := by
      rw [binade_eq, ← pow_add]
      congr 1
      omega
    omega
  have hhigh : size < 2 * binade * 2 ^ index := by
    have hlt := Nat.lt_log2_self (n := size)
    have hpow : 2 ^ (size.log2 + 1) = 2 * binade * 2 ^ index := by
      rw [binade_eq, ← pow_succ', ← pow_add]
      congr 1
      omega
    omega
  have hquotLow : binade ≤ size / 2 ^ index := (Nat.le_div_iff_mul_le hpowPos).mpr hlow
  have hquotHigh : size / 2 ^ index < 2 * binade := (Nat.div_lt_iff_lt_mul hpowPos).mpr hhigh
  refine ⟨index, size / 2 ^ index - binade, by omega, ?_, ?_, ?_⟩
  · show index * binade + size / 2 ^ index = _
    rw [Nat.add_one_mul]
    omega
  · rw [show binade + (size / 2 ^ index - binade) = size / 2 ^ index by omega]
    exact Nat.div_mul_le_self size _
  · rw [show binade + (size / 2 ^ index - binade) = size / 2 ^ index by omega]
    exact Nat.lt_mul_of_div_lt (Nat.lt_succ_self _) hpowPos

theorem unitsAt_rankBelow (size : Nat) :
    unitsAt (rankBelow size) ≤ size ∧ size < unitsAt (rankBelow size + 1) := by
  by_cases hlarge : 2 * binade ≤ size
  · rcases rankBelow_of_le hlarge with ⟨index, offset, hoffset, hrank, hlow, hhigh⟩
    rw [hrank, unitsAt_succ, unitsAt_binade index offset hoffset]
    have hdiv : ((index + 1) * binade + offset) / binade = index + 1 := by
      have hpos : 0 < binade := by simp [binade]
      rw [Nat.mul_comm, Nat.mul_add_div hpos, Nat.div_eq_of_lt hoffset, Nat.add_zero]
    rw [hdiv, Nat.add_sub_cancel]
    constructor
    · exact hlow
    · calc
        size < (binade + offset + 1) * 2 ^ index := hhigh
        _ = (binade + offset) * 2 ^ index + 2 ^ index := by ring
  · have hlog : size.log2 - 52 = 0 := by
      have hlt : size.log2 < 53 := by
        by_cases hzero : size = 0
        · simp [hzero]
        · exact (Nat.log2_lt hzero).mpr (by simpa [binade] using hlarge)
      omega
    have hrank : rankBelow size = size := by simp [rankBelow, hlog]
    have hunits : unitsAt size = size := by
      by_cases hsmall : size < binade
      · exact unitsAt_of_lt hsmall
      · have hform : size = (0 + 1) * binade + (size - binade) := by omega
        rw [hform, unitsAt_binade 0 (size - binade) (by omega)]
        omega
    rw [hrank, hunits]
    constructor
    · exact Nat.le_refl _
    · have hnext := unitsAt_lt_succ size
      omega

theorem unitsAt_rankBelow_div (num : Nat) {den : Nat} (hden : 0 < den) :
    unitsAt (rankBelow (num / den)) * den ≤ num ∧
      num < unitsAt (rankBelow (num / den) + 1) * den := by
  rcases unitsAt_rankBelow (num / den) with ⟨hlow, hhigh⟩
  constructor
  · exact (Nat.le_div_iff_mul_le hden).mp hlow
  · exact (Nat.div_lt_iff_lt_mul hden).mp hhigh

/-!
## The nearest place
-/

/-- A quotient of units lies between the midpoints on both sides of a place; the midpoints belong
to an even place. -/
def RoundsTo (num den rank : Nat) : Prop :=
  ((unitsAt (rank - 1) + unitsAt rank) * den < 2 * num ∨
    (rank % 2 = 0 ∧ (unitsAt (rank - 1) + unitsAt rank) * den = 2 * num)) ∧
  (2 * num < (unitsAt rank + unitsAt (rank + 1)) * den ∨
    (rank % 2 = 0 ∧ 2 * num = (unitsAt rank + unitsAt (rank + 1)) * den))

theorem nearestRank_eq_of_roundsTo {num den rank : Nat} (hden : 0 < den) (hrank : 0 < rank)
    (h : RoundsTo num den rank) : nearestRank num den = rank := by
  rcases h with ⟨hlow, hhigh⟩
  rcases unitsAt_rankBelow_div num hden with ⟨hbelow, habove⟩
  have hprev := unitsAt_lt_succ (rank - 1)
  rw [Nat.sub_add_cancel hrank] at hprev
  have hnext := unitsAt_lt_succ rank
  have hprevDen : unitsAt (rank - 1) * den < unitsAt rank * den :=
    Nat.mul_lt_mul_of_pos_right hprev hden
  have hnextDen : unitsAt rank * den < unitsAt (rank + 1) * den :=
    Nat.mul_lt_mul_of_pos_right hnext hden
  rw [Nat.add_mul] at hlow hhigh
  -- The place below the quotient is the place itself or the one before it.
  have hge : rank - 1 ≤ rankBelow (num / den) := by
    by_contra hlt
    have hle : unitsAt (rankBelow (num / den) + 1) * den ≤ unitsAt (rank - 1) * den :=
      Nat.mul_le_mul_right den (unitsAt_mono (by omega))
    omega
  have hle : rankBelow (num / den) ≤ rank := by
    by_contra hgt
    have hle : unitsAt (rank + 1) * den ≤ unitsAt (rankBelow (num / den)) * den :=
      Nat.mul_le_mul_right den (unitsAt_mono (by omega))
    omega
  have hcases : rankBelow (num / den) = rank ∨ rankBelow (num / den) = rank - 1 := by omega
  unfold nearestRank
  rcases hcases with hsame | hbefore
  · simp only [hsame, Nat.add_mul]
    rcases hhigh with hlt | ⟨heven, heq⟩
    · rw [if_pos hlt]
    · rw [if_neg (by omega), if_neg (by omega), heven, Nat.add_zero]
  · simp only [hbefore, Nat.add_mul, Nat.sub_add_cancel hrank]
    rcases hlow with hlt | ⟨heven, heq⟩
    · rw [if_neg (by omega), if_pos hlt]
    · rw [if_neg (by omega), if_neg (by omega)]
      omega

theorem nearestRank_mul_right (num : Nat) {den factor : Nat} (hfactor : 0 < factor) :
    nearestRank (num * factor) (den * factor) = nearestRank num den := by
  have hdiv : num * factor / (den * factor) = num / den :=
    Nat.mul_div_mul_right num den hfactor
  have hscale : forall a b : Nat, a * factor < b * factor <-> a < b := fun a b =>
    Nat.mul_lt_mul_right hfactor
  unfold nearestRank
  simp only [hdiv, ← Nat.mul_assoc, hscale]

end Magnitude

end CatalogSearch
