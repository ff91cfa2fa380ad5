import CatalogSearch.Json.Shown
import CatalogSearch.Proofs.Number.ShortestDecimal

/-!
# The range of the numbers

Infinity stands for the power of two that follows the greatest finite number.
Whatever lies below the point halfway between the two is rounded to a finite
number, and from that point on everything is rounded to infinity.
-/

namespace CatalogSearch

namespace Magnitude

/-- An even place or a later one is nearest exactly from the midpoint before it on. -/
theorem le_nearestRank_iff {num den rank : Nat} (hden : 0 < den) (hrank : 0 < rank)
    (heven : rank % 2 = 0) :
    rank ≤ nearestRank num den <-> (unitsAt (rank - 1) + unitsAt rank) * den ≤ 2 * num := by
  rcases unitsAt_rankBelow_div num hden with ⟨hbelow, habove⟩
  unfold nearestRank
  generalize rankBelow (num / den) = below at hbelow habove
  dsimp only
  rcases Nat.lt_trichotomy below (rank - 1) with hlt | heq | hgt
  · -- The quotient lies before the place in front of the given one.
    have hprev : unitsAt (below + 1) * den ≤ unitsAt (rank - 1) * den :=
      Nat.mul_le_mul_right den (unitsAt_mono hlt)
    have hmono : unitsAt (rank - 1) * den ≤ unitsAt rank * den :=
      Nat.mul_le_mul_right den (unitsAt_mono (Nat.sub_le rank 1))
    have hmiddle : 2 * num < (unitsAt (rank - 1) + unitsAt rank) * den := by
      rw [Nat.add_mul]
      omega
    constructor
    · intro hle
      split at hle
      · omega
      · split at hle <;> omega
    · omega
  · -- The midpoint belongs to the even place behind it.
    have hnext : below + 1 = rank := by omega
    rw [← heq, hnext]
    by_cases hlow : 2 * num < (unitsAt below + unitsAt rank) * den
    · simp only [hlow, if_true]
      omega
    · by_cases hhigh : (unitsAt below + unitsAt rank) * den < 2 * num
      · simp only [hlow, hhigh, if_true, if_false]
        omega
      · simp only [hlow, hhigh, if_false]
        omega
  · have hle : rank ≤ below := by omega
    have hunits : unitsAt rank * den ≤ unitsAt below * den :=
      Nat.mul_le_mul_right den (unitsAt_mono hle)
    have hmono : unitsAt (rank - 1) * den ≤ unitsAt rank * den :=
      Nat.mul_le_mul_right den (unitsAt_mono (Nat.sub_le rank 1))
    have hmiddle : (unitsAt (rank - 1) + unitsAt rank) * den ≤ 2 * num := by
      rw [Nat.add_mul]
      omega
    constructor
    · intro _
      exact hmiddle
    · intro _
      split
      · exact hle
      · split <;> omega

@[irreducible]
def halfSpacing : Nat := Nat.pow 2 970

def overflow : Nat := (4 * binade - 1) * halfSpacing

/-- The power with its exponent as a variable, so that it is never evaluated. -/
theorem halfSpacing_eq {exponent : Nat} (h : exponent = 970) : halfSpacing = 2 ^ exponent := by
  subst h
  unfold halfSpacing
  exact Eq.refl _

theorem overflow_pos : 0 < overflow := by
  obtain ⟨exponent, h⟩ : exists exponent : Nat, exponent = 970 := ⟨970, rfl⟩
  rw [overflow, halfSpacing_eq h]
  exact Nat.mul_pos (by decide) (Nat.two_pow_pos exponent)

theorem midpoint_before_binade (index : Nat) :
    unitsAt ((index + 1) * binade - 1) + unitsAt ((index + 1) * binade) + 2 ^ (index - 1) =
      2 * unitsAt ((index + 1) * binade) := by
  have hpos : 0 < binade := by decide
  have hrank : (index + 1) * binade - 1 = index * binade + (binade - 1) := by
    rw [Nat.add_one_mul]
    omega
  have hdiv : ((index + 1) * binade - 1) / binade = index := by
    rw [hrank, Nat.mul_comm, Nat.mul_add_div hpos, Nat.div_eq_of_lt (by omega), Nat.add_zero]
  have hstep := unitsAt_succ ((index + 1) * binade - 1)
  have hnext : (index + 1) * binade - 1 + 1 = (index + 1) * binade := by
    rw [hrank, Nat.add_one_mul]
    omega
  rw [hnext, hdiv] at hstep
  omega

theorem last_midpoint :
    unitsAt (2047 * binade - 1) + unitsAt (2047 * binade) = 2 * overflow * unitsPerOne := by
  obtain ⟨low, hlow⟩ : exists low : Nat, low = 970 := ⟨970, rfl⟩
  obtain ⟨units, hunits⟩ : exists units : Nat, units = 1074 := ⟨1074, rfl⟩
  have hmiddle := midpoint_before_binade 2046
  have hlast : unitsAt ((2046 + 1) * binade) = 2 ^ (2 + 52 + low) * unitsPerOne :=
    Binary64.unitsAt_two_pow hunits (by omega)
  have hstep : 2046 - 1 = 1 + low + units := by omega
  rw [hlast, hstep, Nat.pow_add _ (1 + low), Nat.pow_add _ 1, Nat.pow_add _ (2 + 52),
    Nat.pow_add _ 2, ← binade_eq, ← unitsPerOne_eq hunits, ← halfSpacing_eq hlow,
    Nat.mul_assoc _ halfSpacing, Nat.mul_assoc _ halfSpacing] at hmiddle
  rw [show 2047 * binade = (2046 + 1) * binade from rfl, hlast, overflow, Nat.pow_add _ (2 + 52),
    Nat.pow_add _ 2, ← binade_eq, ← halfSpacing_eq hlow, Nat.mul_assoc _ halfSpacing,
    Nat.mul_assoc 2, Nat.mul_assoc _ halfSpacing]
  generalize unitsAt ((2046 + 1) * binade - 1) = before at hmiddle ⊢
  generalize halfSpacing * unitsPerOne = unit at hmiddle ⊢
  simp only [binade_eq] at hmiddle ⊢
  omega

theorem isFinite_nearest_iff {num den : Nat} (hden : 0 < den) :
    (nearest num den).isFinite = true <-> num < overflow * unitsPerOne * den := by
  have hrank : (nearest num den).isFinite = true <->
      ¬ 2047 * binade ≤ nearestRank num den := by
    rw [isFinite, decide_eq_true_iff, nearest, ofRank]
    show min (nearestRank num den) (2047 * binade) < 2047 * binade <-> _
    omega
  rw [hrank, le_nearestRank_iff hden (by decide) (by decide), last_midpoint, Nat.not_le,
    Nat.mul_assoc 2, Nat.mul_assoc 2]
  exact Nat.mul_lt_mul_left (by decide)

end Magnitude

namespace Binary64

open Magnitude

theorem isFinite_ofQuotient_iff (negative : Bool) {num den : Nat} (hden : 0 < den) :
    (ofQuotient negative num den).isFinite = true <-> num < overflow * den := by
  have hunits : (ofQuotient negative num den).isFinite =
      (nearest (num * unitsPerOne) den).isFinite := rfl
  rw [hunits, isFinite_nearest_iff hden, Nat.mul_right_comm]
  exact Nat.mul_lt_mul_right unitsPerOne_pos

theorem isFinite_ofInt_iff {n : Int} :
    (ofInt n).isFinite = true <-> n.natAbs < overflow := by
  rw [ofInt, isFinite_ofQuotient_iff _ Nat.one_pos, Nat.mul_one]

theorem ofInt?_eq_none_iff {n : Int} :
    ofInt? n = none <-> overflow ≤ n.natAbs := by
  rw [← Nat.not_lt, ← isFinite_ofInt_iff]
  unfold ofInt?
  split
  · rename_i hfinite
    simp [hfinite]
  · rename_i hinfinite
    exact iff_of_true rfl hinfinite

theorem isFinite_ofDecimal_iff (negative : Bool) (digits places : Nat) :
    (ofDecimal negative digits (-(places : Int))).isFinite = true <->
      digits < overflow * 10 ^ places := by
  have hpower : 0 < 10 ^ places := Nat.pow_pos (by decide)
  unfold ofDecimal
  by_cases hzero : digits = 0
  · rw [if_pos hzero, hzero]
    constructor
    · intro _
      exact Nat.mul_pos overflow_pos hpower
    · intro _
      rfl
  · rw [if_neg hzero, if_neg (by omega)]
    by_cases hfar : -(places : Int) < -((digits.log2 : Int) + 400)
    · rw [if_pos hfar]
      constructor
      · intro _
        calc
          digits < 2 ^ (digits.log2 + 1) := Nat.lt_log2_self
          _ ≤ 2 ^ places := Nat.pow_le_pow_right (by decide) (by omega)
          _ ≤ 10 ^ places := Nat.pow_le_pow_left (by decide) places
          _ ≤ overflow * 10 ^ places := Nat.le_mul_of_pos_left _ overflow_pos
      · intro _
        rfl
    · rw [if_neg hfar]
      by_cases hwhole : 0 ≤ -(places : Int)
      · have hplaces : places = 0 := by omega
        rw [if_pos hwhole, isFinite_ofQuotient_iff _ Nat.one_pos, hplaces]
        simp
      · have hneg : (-(-(places : Int))).toNat = places := by omega
        rw [if_neg hwhole, hneg]
        exact isFinite_ofQuotient_iff _ hpower

end Binary64

namespace Json

theorem binaryOfInteger_eq_error_iff {value : Int} {cause : NumberError} :
    binaryOfInteger value = .error cause <->
      Magnitude.overflow ≤ value.natAbs ∧ cause = .integerTooLarge := by
  rw [← Binary64.ofInt?_eq_none_iff]
  unfold binaryOfInteger
  cases Binary64.ofInt? value <;> simp [eq_comm]

end Json

end CatalogSearch
