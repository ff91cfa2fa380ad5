import CatalogSearch.Proofs.Number.DecimalDigits
import CatalogSearch.Proofs.Number.ShortestDecimal

/-!
# The text of an amount of money

The number nearest to a whole number of cents is shown with at most two decimals: its shortest
decimal is found on the grid of the cents or on a coarser one.  Such a number with a fraction
has less than sixteen digits before the point, so that no exponent is written.
-/

namespace CatalogSearch

/-- A number has at least the size that the length of its digits says. -/
theorem pow_length_le
    {n : Nat} (h : n ≠ 0) :
    10 ^ ((decimalDigits n).length - 1) ≤ n := by
  induction n using Nat.strongRecOn with
  | ind n ih =>
      by_cases hlt : n < 10
      · have hdigits : decimalDigits n = [n.digitChar] := Nat.toDigits_of_lt_base hlt
        rw [hdigits]
        exact Nat.pos_of_ne_zero h
      · have hrest := ih (n / 10) (by omega) (by omega)
        have hdigits : decimalDigits n = decimalDigits (n / 10) ++ [(n % 10).digitChar] :=
          Nat.toDigits_of_base_le (by decide) (Nat.not_lt.mp hlt)
        have hpositive := List.length_pos_iff.mpr (decimalDigits_ne_nil (n / 10))
        rw [hdigits, List.length_append, List.length_singleton, Nat.add_sub_cancel]
        generalize (decimalDigits (n / 10)).length = length at *
        calc
          10 ^ length = 10 ^ (length - 1) * 10 := by
            rw [← Nat.pow_succ, Nat.succ_eq_add_one, Nat.sub_add_cancel hpositive]
          _ ≤ n / 10 * 10 := Nat.mul_le_mul_right 10 hrest
          _ ≤ n := Nat.div_mul_le_self n 10

namespace Magnitude

/-!
## The place of the nearest number
-/

theorem roundsTo_nearestRank
    {num den : Nat} (hden : 0 < den) (hrank : 0 < nearestRank num den) :
    RoundsTo num den (nearestRank num den) := by
  rcases unitsAt_rankBelow_div num hden with ⟨hbelow, habove⟩
  unfold nearestRank at hrank ⊢
  generalize rankBelow (num / den) = below at hbelow habove hrank ⊢
  dsimp only at hrank ⊢
  have hstep : unitsAt below * den < unitsAt (below + 1) * den :=
    Nat.mul_lt_mul_of_pos_right (unitsAt_lt_succ below) hden
  have hprev : 0 < below -> unitsAt (below - 1) * den < unitsAt below * den := by
    intro hpos
    exact Nat.mul_lt_mul_of_pos_right (unitsAt_strictMono (by omega)) hden
  have hnext : unitsAt (below + 1) * den < unitsAt (below + 1 + 1) * den :=
    Nat.mul_lt_mul_of_pos_right (unitsAt_lt_succ (below + 1)) hden
  unfold RoundsTo
  simp only [Nat.add_mul] at hrank ⊢
  split at hrank
  · rename_i hlow
    rw [if_pos hlow]
    have hbefore := hprev hrank
    omega
  · rename_i hnotLow
    split at hrank
    · rename_i hhigh
      rw [if_neg hnotLow, if_pos hhigh, Nat.add_sub_cancel]
      omega
    · rename_i hnotHigh
      rw [if_neg hnotLow, if_neg hnotHigh]
      -- Halfway between two places the even one is taken.
      rcases Nat.mod_two_eq_zero_or_one below with heven | hodd
      · rw [heven, Nat.add_zero] at hrank ⊢
        have hbefore := hprev hrank
        omega
      · rw [hodd, Nat.add_sub_cancel]
        omega

theorem nearestRank_eq_rank
    {num den : Nat} {size : Magnitude} (h : nearest num den = size)
    (hfinite : size.isFinite = true) :
    nearestRank num den = size.rank := by
  have hlt : size.rank < 2047 * binade := by simpa [isFinite] using hfinite
  have hrank : min (nearestRank num den) (2047 * binade) = size.rank := congrArg rank h
  omega

theorem nearest_units
    {size : Magnitude} (hrank : 0 < size.rank) :
    nearest size.units 1 = size := by
  have hprev := unitsAt_strictMono (show size.rank - 1 < size.rank by omega)
  have hnext := unitsAt_lt_succ size.rank
  have hrounds : RoundsTo size.units 1 size.rank := by
    unfold RoundsTo units
    omega
  unfold nearest ofRank
  rw [nearestRank_eq_of_roundsTo Nat.one_pos hrank hrounds]
  cases size with
  | mk rank rank_le =>
      simp only [Magnitude.mk.injEq]
      exact Nat.min_eq_left rank_le

/-- From the power of two of the binade on which the places are one apart, every size is whole. -/
theorem unitsPerOne_dvd_unitsAt
    {index rank units : Nat} (hunits : units = 1074) (hindex : units ≤ index)
    (hrank : (index + 1) * binade ≤ rank) :
    unitsPerOne ∣ unitsAt rank := by
  have hpos : 0 < binade := by simp [binade]
  have hsplit := Nat.div_add_mod rank binade
  have hoffset := Nat.mod_lt rank hpos
  have hle : index + 1 ≤ rank / binade := (Nat.le_div_iff_mul_le hpos).mpr hrank
  have hform : rank = (rank / binade - 1 + 1) * binade + rank % binade := by
    rw [Nat.sub_add_cancel (by omega), Nat.mul_comm]
    exact hsplit.symm
  rw [hform, unitsAt_binade _ _ hoffset, unitsPerOne_eq hunits]
  exact Dvd.dvd.mul_left (Nat.pow_dvd_pow 2 (by omega)) _

/-- A size with a fraction is below the 52nd power of two. -/
theorem unitsAt_succ_le_of_fraction
    {rank : Nat} (h : unitsAt rank % unitsPerOne ≠ 0) :
    unitsAt (rank + 1) ≤ 2 ^ 52 * unitsPerOne := by
  obtain ⟨units, hunits⟩ : exists units : Nat, units = 1074 := ⟨1074, rfl⟩
  have hlt : rank < (units + 1) * binade := by
    by_contra hge
    apply h
    exact Nat.mod_eq_zero_of_dvd
      (unitsPerOne_dvd_unitsAt hunits (Nat.le_refl units) (Nat.not_lt.mp hge))
  have htop : unitsAt ((units + 1) * binade) = 2 ^ 52 * unitsPerOne :=
    Binary64.unitsAt_two_pow hunits rfl
  rw [← htop]
  exact unitsAt_mono hlt

end Magnitude

namespace Binary64

open Magnitude

/-!
## Points that fit
-/

theorem fitsGrid_iff_roundsTo
    {size : Magnitude} {exponent : Int} {point : Nat} :
    fitsGrid size exponent point = true <->
      RoundsTo (point * gridStep exponent) (gridScale exponent) size.rank := by
  refine ⟨fitsGrid_roundsTo, ?_⟩
  intro h
  unfold RoundsTo at h
  unfold fitsGrid
  rw [Nat.mul_assoc]
  split
  · rw [Bool.and_eq_true, decide_eq_true_iff, decide_eq_true_iff]
    simp only [roundingBounds, units]
    omega
  · rw [Bool.and_eq_true, decide_eq_true_iff, decide_eq_true_iff]
    simp only [roundingBounds, units]
    omega

def LiesBetween (size : Magnitude) (exponent : Int) (point other : Nat) : Prop :=
  size.units * gridScale exponent ≤ point * gridStep exponent ∧ point ≤ other ∨
    other ≤ point ∧ point * gridStep exponent ≤ size.units * gridScale exponent

theorem LiesBetween.fitsGrid
    {size : Magnitude} {exponent : Int} {point other : Nat}
    (h : LiesBetween size exponent point other) (hrank : 0 < size.rank)
    (hother : fitsGrid size exponent other = true) :
    Binary64.fitsGrid size exponent point = true := by
  have hprev : unitsAt (size.rank - 1) * gridScale exponent < size.units * gridScale exponent :=
    Nat.mul_lt_mul_of_pos_right (unitsAt_strictMono (by omega)) (gridScale_pos exponent)
  have hnext : size.units * gridScale exponent < unitsAt (size.rank + 1) * gridScale exponent :=
    Nat.mul_lt_mul_of_pos_right (unitsAt_lt_succ size.rank) (gridScale_pos exponent)
  rw [fitsGrid_iff_roundsTo] at hother ⊢
  unfold RoundsTo at hother ⊢
  unfold LiesBetween at h
  simp only [Nat.add_mul, units] at h hother hprev hnext ⊢
  rcases h with ⟨hsize, hle⟩ | ⟨hle, hsize⟩
  · have hpoints := Nat.mul_le_mul_right (gridStep exponent) hle
    omega
  · have hpoints := Nat.mul_le_mul_right (gridStep exponent) hle
    omega

/-- One of the two neighbours of a magnitude lies between it and any other point. -/
theorem neighbour_liesBetween
    {size : Magnitude} (hrank : 0 < size.rank) (exponent : Int) {point : Nat} (hpoint : point ≠ 0) :
    exists neighbour : Nat, neighbour ≠ 0 ∧ LiesBetween size exponent neighbour point ∧
      (neighbour = nearestPoint size exponent ∨ neighbour = otherPoint size exponent) := by
  have hstep := gridStep_pos exponent
  have hsize : 0 < size.units * gridScale exponent :=
    Nat.mul_pos (Nat.lt_of_le_of_lt (Nat.zero_le _) (unitsAt_strictMono hrank))
      (gridScale_pos exponent)
  have hnear : 2 * (size.units * gridScale exponent) ≤
      2 * (nearestPoint size exponent * gridStep exponent) + gridStep exponent ∧
      2 * (nearestPoint size exponent * gridStep exponent) ≤
        2 * (size.units * gridScale exponent) + gridStep exponent :=
    roundQuotient_near _ hstep
  have hother : otherPoint size exponent =
      if nearestPoint size exponent * gridStep exponent ≤ size.units * gridScale exponent then
        nearestPoint size exponent + 1 else nearestPoint size exponent - 1 := rfl
  unfold LiesBetween
  generalize size.units * gridScale exponent = target at *
  generalize gridStep exponent = step at *
  generalize nearestPoint size exponent = nearest at *
  have hsucc : (nearest + 1) * step = nearest * step + step := Nat.add_one_mul nearest step
  by_cases hside : nearest * step ≤ target
  · rw [if_pos hside] at hother
    by_cases hle : point ≤ nearest
    · exact ⟨nearest, by omega, Or.inr ⟨hle, hside⟩, Or.inl rfl⟩
    · exact ⟨nearest + 1, by omega, Or.inl ⟨by omega, by omega⟩, Or.inr hother.symm⟩
  · rw [if_neg hside] at hother
    have hpositive : nearest ≠ 0 := by
      intro hzero
      rw [hzero, Nat.zero_mul] at hside
      omega
    by_cases hle : nearest ≤ point
    · exact ⟨nearest, hpositive, Or.inl ⟨by omega, hle⟩, Or.inl rfl⟩
    · have hpred : (nearest - 1) * step + step = nearest * step := by
        rw [← Nat.add_one_mul, Nat.sub_add_cancel (by omega)]
      exact ⟨nearest - 1, by omega, Or.inr ⟨by omega, by omega⟩, Or.inr hother.symm⟩

theorem gridPoint?_of_fitsGrid
    {size : Magnitude} {exponent : Int} {point : Nat} (hrank : 0 < size.rank) (hpoint : point ≠ 0)
    (h : fitsGrid size exponent point = true) :
    exists found : Nat, gridPoint? size exponent = some found := by
  rcases neighbour_liesBetween hrank exponent hpoint with ⟨neighbour, hne, hbetween, hwhich⟩
  have hfits := hbetween.fitsGrid hrank h
  unfold gridPoint?
  dsimp only
  split
  · exact ⟨_, rfl⟩
  · rename_i hnearest
    split
    · exact ⟨_, rfl⟩
    · rename_i hother
      rcases hwhich with heq | heq
      · exact absurd (by simp [← heq, hne, hfits]) hnearest
      · exact absurd (by simp [← heq, hne, hfits]) hother

/-!
## Numbers of cents
-/

theorem ofDecimal_mul_pow
    (negative : Bool) {digits : Nat} {exponent : Int} (places : Nat) (hlow : -200 ≤ exponent)
    (hhigh : exponent ≤ 0) (hplaces : places ≤ 200) :
    ofDecimal negative (digits * 10 ^ places) (exponent - places) =
      ofDecimal negative digits exponent := by
  by_cases hdigits : digits = 0
  · unfold ofDecimal
    rw [if_pos hdigits, if_pos (by rw [hdigits, Nat.zero_mul])]
  · have hne : digits * 10 ^ places ≠ 0 := Nat.mul_ne_zero hdigits (by simp)
    have hstep : forall e : Int, e ≤ 0 -> gridStep e = unitsPerOne := by
      intro e he
      rw [gridStep, show e.toNat = 0 by omega, Nat.pow_eq, pow_zero, Nat.one_mul]
    have hscale : gridScale (exponent - places) = gridScale exponent * 10 ^ places := by
      rw [gridScale, gridScale, Nat.pow_eq, Nat.pow_eq, ← Nat.pow_add]
      congr 1
      omega
    rw [ofDecimal_eq_nearest negative hne (by omega) (by omega),
      ofDecimal_eq_nearest negative hdigits (by omega) (by omega), hstep _ hhigh,
      hstep _ (by omega), hscale, Nat.mul_right_comm]
    unfold nearest
    rw [nearestRank_mul_right _ (Nat.pow_pos (by decide))]

variable {size : Magnitude} (hrank : 0 < size.rank) (hfinite : size.isFinite = true)

include hrank hfinite

/-- The shortest decimal of a number of cents has at most two places. -/
theorem shortestDecimal_ofCents
    {cents : Nat} (h : ofDecimal false cents (-2) = signed false size) :
    -2 ≤ (shortestDecimal size).2 := by
  have hcents : cents ≠ 0 := by
    intro hzero
    rw [hzero] at h
    injection h with _ hsize
    rw [← hsize] at hrank
    exact Nat.lt_irrefl 0 hrank
  rw [ofDecimal_eq_nearest false hcents (by decide) (by decide)] at h
  injection h with _ hnearest
  have hplace := nearestRank_eq_rank hnearest hfinite
  have hrounds : RoundsTo (cents * gridStep (-2)) (gridScale (-2)) size.rank := by
    rw [← hplace] at hrank ⊢
    exact roundsTo_nearestRank (gridScale_pos (-2)) hrank
  have hpoint := gridPoint?_of_fitsGrid hrank hcents (fitsGrid_iff_roundsTo.mpr hrounds)
  have hcoarsest := coarsestExponent_le hfinite
  rcases @searchGrid_found _ _ 700 (coarsestExponent size : Int) hpoint (by omega) (by omega) with
    ⟨point, exponent, hfound, hleast, _⟩
  rw [shortestDecimal, hfound]
  exact hleast

/-- The first digit of a number with a fraction stands at most at the sixteenth place. -/
theorem shortestDecimal_leading_le
    (hfraction : size.units % unitsPerOne ≠ 0) :
    (shortestDecimal size).2 + (decimalDigits (shortestDecimal size).1).length ≤ 16 := by
  rcases shortestDecimal_fits hrank hfinite with ⟨hpoint, hfits, hlow, _⟩
  generalize (shortestDecimal size).1 = point at *
  generalize (shortestDecimal size).2 = exponent at *
  have hbounds : size.units + unitsAt (size.rank + 1) ≤ 2 * (2 ^ 52 * unitsPerOne) := by
    have hnext := unitsAt_succ_le_of_fraction hfraction
    have hlt := unitsAt_lt_succ size.rank
    unfold units
    omega
  have hupper : point * gridStep exponent ≤ 2 ^ 52 * unitsPerOne * gridScale exponent := by
    have hrounds := (fitsGrid_roundsTo hfits).2
    have hscaled := Nat.mul_le_mul_right (gridScale exponent) hbounds
    rw [Nat.mul_assoc 2] at hscaled
    unfold units at hscaled
    omega
  have hpower := pow_length_le hpoint
  generalize (decimalDigits point).length = length at *
  have hsmall : 2 ^ 52 < 10 ^ 16 := by decide
  by_cases hwhole : 0 ≤ exponent
  · have hscale : gridScale exponent = 1 := by
      rw [gridScale, show (-exponent).toNat = 0 by omega, Nat.pow_eq, pow_zero]
    rw [hscale, Nat.mul_one, gridStep, Nat.pow_eq, ← Nat.mul_assoc] at hupper
    have hlt : 10 ^ (length - 1 + exponent.toNat) < 10 ^ 16 := by
      calc
        10 ^ (length - 1 + exponent.toNat) = 10 ^ (length - 1) * 10 ^ exponent.toNat :=
          Nat.pow_add 10 _ _
        _ ≤ point * 10 ^ exponent.toNat := Nat.mul_le_mul_right _ hpower
        _ ≤ 2 ^ 52 := Nat.le_of_mul_le_mul_right hupper unitsPerOne_pos
        _ < 10 ^ 16 := hsmall
    have hexponents := (Nat.pow_lt_pow_iff_right (by decide : 1 < 10)).mp hlt
    omega
  · have hstep : gridStep exponent = unitsPerOne := by
      rw [gridStep, show exponent.toNat = 0 by omega, Nat.pow_eq, pow_zero, Nat.one_mul]
    rw [hstep, gridScale, Nat.pow_eq, Nat.mul_right_comm] at hupper
    have hlt : 10 ^ (length - 1) < 10 ^ (16 + (-exponent).toNat) := by
      calc
        10 ^ (length - 1) ≤ point := hpower
        _ ≤ 2 ^ 52 * 10 ^ (-exponent).toNat :=
          Nat.le_of_mul_le_mul_right hupper unitsPerOne_pos
        _ < 10 ^ 16 * 10 ^ (-exponent).toNat :=
          Nat.mul_lt_mul_of_pos_right hsmall (Nat.pow_pos (by decide))
        _ = 10 ^ (16 + (-exponent).toNat) := (Nat.pow_add 10 _ _).symm
    have hexponents := (Nat.pow_lt_pow_iff_right (by decide : 1 < 10)).mp hlt
    omega

omit hfinite in
/-- A decimal whose first digit stands near the point is written positionally. -/
theorem magnitudeText_positional
    (hlow : plainLayout.leastPositional ≤ (shortestDecimal size).2 +
      (decimalDigits (shortestDecimal size).1).length - 1)
    (hhigh : (shortestDecimal size).2 + (decimalDigits (shortestDecimal size).1).length - 1 ≤
      plainLayout.greatestPositional) :
    magnitudeText plainLayout size = placePoint (decimalDigits (shortestDecimal size).1)
      ((shortestDecimal size).2 + (decimalDigits (shortestDecimal size).1).length) := by
  unfold magnitudeText
  rw [if_neg (Nat.ne_of_gt hrank)]
  -- The search for the decimal must not be evaluated.
  generalize shortestDecimal size = decimal at hlow hhigh ⊢
  rcases decimal with ⟨point, exponent⟩
  simp only [hlow, hhigh, decide_true, Bool.and_self, if_true, Int.sub_add_cancel]

omit hrank in
theorem compactText_of_fraction
    (h : size.units % unitsPerOne ≠ 0) :
    compactText (signed false size) = magnitudeText plainLayout size := by
  have hwhole : (signed false size).isWhole = false := by
    simp [isWhole, hfinite, h]
  unfold compactText
  rw [hwhole]
  simp [text, shortestText, hfinite]

theorem compactText_fraction
    {cents : Nat} (h : ofDecimal false cents (-2) = signed false size)
    (hfraction : size.units % unitsPerOne ≠ 0) :
    exists whole fraction : List Char,
      compactText (signed false size) = whole ++ '.' :: fraction ∧ fraction.length ≤ 2 ∧
        PlacedDigits false (shortestDecimal size).1 (shortestDecimal size).2 whole fraction := by
  have hlow := shortestDecimal_ofCents hrank hfinite h
  have hleading := shortestDecimal_leading_le hrank hfinite hfraction
  rcases shortestDecimal_fits hrank hfinite with ⟨hpoint, _, _, hhigh⟩
  have hdigits := List.length_pos_iff.mpr (decimalDigits_ne_nil (shortestDecimal size).1)
  have hleast : plainLayout.leastPositional ≤ (shortestDecimal size).2 +
      (decimalDigits (shortestDecimal size).1).length - 1 := by
    show -4 ≤ _
    omega
  have hgreatest : (shortestDecimal size).2 + (decimalDigits (shortestDecimal size).1).length - 1 ≤
      plainLayout.greatestPositional := by
    show _ ≤ (15 : Int)
    omega
  rcases placePoint_split false hpoint hhigh with ⟨whole, fraction, hplace, hplaced⟩
  refine ⟨whole, fraction, ?_, ?_, hplaced⟩
  · rw [compactText_of_fraction hfinite hfraction,
      magnitudeText_positional hrank hleast hgreatest, hplace]
  · rcases hplaced.fraction_length with hone | hexponent
    · omega
    · omega

omit hrank hfinite

theorem compactText_whole
    (h : size.units % unitsPerOne = 0) (hfinite : size.isFinite = true) :
    compactText (signed false size) = decimalDigits (size.units / unitsPerOne) ∧
      ofDecimal false (size.units / unitsPerOne) 0 = signed false size := by
  have hwhole : (signed false size).isWhole = true := by
    simp [isWhole, hfinite, h]
  constructor
  · have htruncate : (signed false size).truncate = ((size.units / unitsPerOne : Nat) : Int) := rfl
    rw [compactText, hwhole, if_pos rfl, htruncate, integerText,
      if_neg (Int.not_lt.mpr (Int.natCast_nonneg _)), Int.natAbs_natCast]
  · by_cases hrank : 0 < size.rank
    · have hunits : 0 < size.units := Nat.lt_of_le_of_lt (Nat.zero_le _) (unitsAt_strictMono hrank)
      have hsplit : size.units / unitsPerOne * unitsPerOne = size.units :=
        Nat.div_mul_cancel (Nat.dvd_of_mod_eq_zero h)
      have hne : size.units / unitsPerOne ≠ 0 := by
        intro hzero
        rw [hzero, Nat.zero_mul] at hsplit
        omega
      have hstep : gridStep 0 = unitsPerOne := Nat.one_mul unitsPerOne
      rw [ofDecimal_eq_nearest false hne (by decide) (by decide), hstep, hsplit]
      exact congrArg (signed false) (nearest_units hrank)
    · have hsize : size = .zero := by
        cases size with
        | mk rank rank_le =>
            simp only [Magnitude.zero, Magnitude.mk.injEq]
            exact Nat.eq_zero_of_not_pos hrank
      have hunits : size.units = 0 := by
        rw [hsize]
        exact unitsAt_zero
      rw [hunits, Nat.zero_div, hsize]
      rfl

end Binary64

end CatalogSearch
