import CatalogSearch.Proofs.Number.DecimalDigits
import CatalogSearch.Proofs.Number.Rounding

/-!
# The shortest decimal rounds back

A point of a grid that is found for a magnitude lies between the midpoints
around it, and the grid of the 358th decimal place always has one.  So the search
ends with a decimal, and the number nearest to that decimal is the magnitude.
-/

namespace CatalogSearch

namespace Binary64

open Magnitude

/-!
## Points of a grid
-/

theorem gridScale_pos (exponent : Int) : 0 < gridScale exponent :=
  Nat.pow_pos (by decide)

theorem gridStep_pos (exponent : Int) : 0 < gridStep exponent :=
  Nat.mul_pos (Nat.pow_pos (by decide)) unitsPerOne_pos

theorem gridPoint?_eq_some {size : Magnitude} {exponent : Int} {point : Nat}
    (h : gridPoint? size exponent = some point) :
    point ≠ 0 ∧ fitsGrid size exponent point = true := by
  simp only [gridPoint?] at h
  split at h
  · rename_i hnearest
    rw [← Option.some.inj h]
    simpa using hnearest
  · split at h
    · rename_i hother
      rw [← Option.some.inj h]
      simpa using hother
    · cases h

theorem fitsGrid_roundsTo {size : Magnitude} {exponent : Int} {point : Nat}
    (h : fitsGrid size exponent point = true) :
    RoundsTo (point * gridStep exponent) (gridScale exponent) size.rank := by
  unfold fitsGrid at h
  unfold RoundsTo
  rw [Nat.mul_assoc] at h
  split at h
  · rename_i heven
    rw [Bool.and_eq_true, decide_eq_true_iff, decide_eq_true_iff] at h
    simp only [roundingBounds, units] at h
    omega
  · rw [Bool.and_eq_true, decide_eq_true_iff, decide_eq_true_iff] at h
    simp only [roundingBounds, units] at h
    omega

theorem nearest_eq_of_fitsGrid {size : Magnitude} {exponent : Int} {point : Nat}
    (hrank : 0 < size.rank) (h : fitsGrid size exponent point = true) :
    nearest (point * gridStep exponent) (gridScale exponent) = size := by
  have hnearest := nearestRank_eq_of_roundsTo (gridScale_pos exponent) hrank (fitsGrid_roundsTo h)
  unfold nearest ofRank
  rw [hnearest]
  cases size with
  | mk rank rank_le =>
      simp only [Magnitude.mk.injEq]
      exact Nat.min_eq_left rank_le

/-!
## A grid that is fine enough
-/

theorem roundQuotient_near (num : Nat) {den : Nat} (hden : 0 < den) :
    2 * num ≤ 2 * (roundQuotient num den * den) + den ∧
      2 * (roundQuotient num den * den) ≤ 2 * num + den := by
  have hsplit := Nat.div_add_mod num den
  have hmod := Nat.mod_lt num hden
  have hnext := Nat.add_one_mul (num / den) den
  rw [Nat.mul_comm] at hsplit
  unfold roundQuotient
  simp only
  split
  · omega
  · split
    · omega
    · rcases Nat.mod_two_eq_zero_or_one (num / den) with heven | hodd
      · rw [heven, Nat.add_zero]
        omega
      · rw [hodd]
        omega

theorem gridScale_neg (places : Nat) : gridScale (-(places : Int)) = 10 ^ places := by
  simp [gridScale]

theorem gridStep_neg (places : Nat) : gridStep (-(places : Int)) = unitsPerOne := by
  simp [gridStep]

/-- A unit is eight to the power 358 times smaller than one. -/
theorem finest_grid : gridStep (-358) < gridScale (-358) := by
  have hstep : gridStep (-358) = unitsPerOne := gridStep_neg 358
  have hscale : gridScale (-358) = 10 ^ 358 := gridScale_neg 358
  have hunits : unitsPerOne = 2 ^ (3 * 358) := unitsPerOne_eq (by decide)
  rw [hstep, hscale, hunits, Nat.pow_mul]
  exact Nat.pow_lt_pow_left (by decide) (by decide)

theorem gridPoint?_finest {size : Magnitude} (hrank : 0 < size.rank) :
    exists point, gridPoint? size (-358) = some point := by
  have hfine : gridStep (-358) < gridScale (-358) := finest_grid
  have hprev : (unitsAt (size.rank - 1) + 1) * gridScale (-358) ≤
      unitsAt size.rank * gridScale (-358) := by
    have hlt := unitsAt_lt_succ (size.rank - 1)
    rw [Nat.sub_add_cancel hrank] at hlt
    exact Nat.mul_le_mul_right _ hlt
  have hnext : (unitsAt size.rank + 1) * gridScale (-358) ≤
      unitsAt (size.rank + 1) * gridScale (-358) :=
    Nat.mul_le_mul_right _ (unitsAt_lt_succ size.rank)
  have hnear := roundQuotient_near (size.units * gridScale (-358)) (gridStep_pos (-358))
  have hpoint : roundQuotient (size.units * gridScale (-358)) (gridStep (-358)) =
      nearestPoint size (-358) := rfl
  rw [hpoint] at hnear
  rw [Nat.add_one_mul] at hprev hnext
  simp only [units] at hnear
  have hfits : fitsGrid size (-358) (nearestPoint size (-358)) = true := by
    have hlow : (roundingBounds size).1 * gridScale (-358) <
        2 * nearestPoint size (-358) * gridStep (-358) := by
      simp only [roundingBounds, units, Nat.add_mul, Nat.mul_assoc]
      omega
    have hhigh : 2 * nearestPoint size (-358) * gridStep (-358) <
        (roundingBounds size).2 * gridScale (-358) := by
      simp only [roundingBounds, units, Nat.add_mul, Nat.mul_assoc]
      omega
    unfold fitsGrid
    split
    · simp [Nat.le_of_lt hlow, Nat.le_of_lt hhigh]
    · simp [hlow, hhigh]
  have hne : nearestPoint size (-358) ≠ 0 := by
    intro hzero
    rw [hzero] at hnear
    omega
  refine ⟨nearestPoint size (-358), ?_⟩
  unfold gridPoint?
  rw [if_pos (by simp [hne, hfits])]

/-!
## The search over the grids
-/

theorem searchGrid_found {point? : Int -> Option Nat} {least : Int} {steps : Nat} {start : Int}
    (hpoint : exists point, point? least = some point)
    (hstart : least ≤ start) (hsteps : start - least < steps) :
    exists point exponent, searchGrid point? steps start = some (point, exponent) ∧
      least ≤ exponent ∧ point? exponent = some point := by
  induction steps generalizing start with
  | zero => omega
  | succ steps ih =>
      cases hgrid : point? start with
      | some point =>
          refine ⟨point, start, ?_, hstart, hgrid⟩
          rw [searchGrid, hgrid]
      | none =>
          have hne : start ≠ least := by
            intro heq
            rcases hpoint with ⟨point, hsome⟩
            rw [heq, hsome] at hgrid
            cases hgrid
          rw [searchGrid, hgrid]
          exact ih (by omega) (by omega)

theorem unitsAt_two_pow {index high units : Nat} (hunits : units = 1074)
    (h : 52 + index = high + units) :
    unitsAt ((index + 1) * binade) = 2 ^ high * unitsPerOne := by
  have hfirst := unitsAt_binade index 0 (by simp [binade])
  rw [Nat.add_zero] at hfirst
  rw [hfirst, Nat.add_zero, unitsPerOne_eq hunits, binade_eq, ← Nat.pow_add, ← Nat.pow_add, h]

theorem units_succ_le {size : Magnitude} (hfinite : size.isFinite = true) :
    unitsAt (size.rank + 1) ≤ 2 ^ 1024 * unitsPerOne := by
  have hlt : size.rank < 2047 * binade := by simpa [Magnitude.isFinite] using hfinite
  have hinfinite : unitsAt ((2046 + 1) * binade) = 2 ^ 1024 * unitsPerOne :=
    unitsAt_two_pow rfl (by decide)
  rw [← hinfinite]
  exact unitsAt_mono hlt

theorem roundingBounds_le {size : Magnitude} (hfinite : size.isFinite = true) :
    (roundingBounds size).2 ≤ 2 * (2 ^ 1024 * unitsPerOne) := by
  have hnext := units_succ_le hfinite
  have hlt := unitsAt_lt_succ size.rank
  simp only [roundingBounds, units]
  omega

theorem coarsestExponent_le {size : Magnitude} (hfinite : size.isFinite = true) :
    coarsestExponent size ≤ 341 := by
  have hquot : (roundingBounds size).2 / (2 * unitsPerOne) ≤ 2 ^ 1024 := by
    apply Nat.div_le_of_le_mul
    calc
      (roundingBounds size).2 ≤ 2 * (2 ^ 1024 * unitsPerOne) := roundingBounds_le hfinite
      _ = 2 * unitsPerOne * 2 ^ 1024 := by ring
  have hlog : ((roundingBounds size).2 / (2 * unitsPerOne)).log2 ≤ 1024 := by
    by_cases hzero : (roundingBounds size).2 / (2 * unitsPerOne) = 0
    · simp [hzero]
    · apply Nat.le_of_lt_succ
      apply (Nat.log2_lt hzero).mpr
      exact Nat.lt_of_le_of_lt hquot (Nat.pow_lt_pow_right (by decide) (by decide))
  unfold coarsestExponent
  omega

theorem infinity_lt : 2 ^ 1024 < 10 ^ 311 := by
  have hblock : 2 ^ 93 < 10 ^ 28 := by decide
  calc
    2 ^ 1024 = (2 ^ 93) ^ 11 * 2 := by rw [← Nat.pow_mul, ← Nat.pow_succ]
    _ < (10 ^ 28) ^ 11 * 10 ^ 3 :=
      Nat.mul_lt_mul_of_lt_of_le (Nat.pow_lt_pow_left hblock (by decide)) (by decide) (by decide)
    _ = 10 ^ 311 := by rw [← Nat.pow_mul, ← Nat.pow_add]

/-- A grid so coarse that its first point is beyond the numbers has no point that fits. -/
theorem exponent_le_of_fitsGrid {size : Magnitude} {exponent : Int} {point : Nat}
    (hfinite : size.isFinite = true) (hpoint : point ≠ 0)
    (h : fitsGrid size exponent point = true) : exponent ≤ 310 := by
  by_contra hlarge
  have hscale : gridScale exponent = 1 := by
    have hzero : (-exponent).toNat = 0 := by omega
    rw [gridScale, hzero, Nat.pow_eq, pow_zero]
  have hupper : 2 * point * gridStep exponent ≤ (roundingBounds size).2 * 1 := by
    unfold fitsGrid at h
    rw [hscale] at h
    split at h
    · simp only [Bool.and_eq_true, decide_eq_true_iff] at h
      exact h.2
    · simp only [Bool.and_eq_true, decide_eq_true_iff] at h
      exact Nat.le_of_lt h.2
  have hpow : 10 ^ 311 ≤ 10 ^ exponent.toNat := Nat.pow_le_pow_right (by decide) (by omega)
  have hstep : 10 ^ exponent.toNat * unitsPerOne ≤ point * gridStep exponent := by
    exact Nat.le_mul_of_pos_left _ (Nat.pos_of_ne_zero hpoint)
  have hbounds := roundingBounds_le hfinite
  have hunits : 2 ^ 1024 * unitsPerOne < 10 ^ exponent.toNat * unitsPerOne :=
    Nat.mul_lt_mul_of_pos_right (Nat.lt_of_lt_of_le infinity_lt hpow) unitsPerOne_pos
  rw [Nat.mul_assoc] at hupper
  omega

theorem shortestDecimal_fits {size : Magnitude} (hrank : 0 < size.rank)
    (hfinite : size.isFinite = true) :
    (shortestDecimal size).1 ≠ 0 ∧
      fitsGrid size (shortestDecimal size).2 (shortestDecimal size).1 = true ∧
      -358 ≤ (shortestDecimal size).2 ∧ (shortestDecimal size).2 ≤ 310 := by
  have hcoarsest := coarsestExponent_le hfinite
  have hsearch := @searchGrid_found _ _ 700 (coarsestExponent size : Int)
    (gridPoint?_finest hrank) (by omega) (by omega)
  rcases hsearch with ⟨point, exponent, hfound, hleast, hgrid⟩
  rcases gridPoint?_eq_some hgrid with ⟨hpoint, hfits⟩
  have hdecimal : shortestDecimal size = (point, exponent) := by
    rw [shortestDecimal, hfound]
    rfl
  rw [hdecimal]
  exact ⟨hpoint, hfits, hleast, exponent_le_of_fitsGrid hfinite hpoint hfits⟩

/-!
## Reading a decimal
-/

theorem ofDecimal_eq_nearest (negative : Bool) {digits : Nat} {exponent : Int}
    (hdigits : digits ≠ 0) (hlow : -400 ≤ exponent) (hhigh : exponent ≤ 310) :
    ofDecimal negative digits exponent =
      signed negative (nearest (digits * gridStep exponent) (gridScale exponent)) := by
  have hnotHigh : ¬ 310 < exponent := by omega
  have hnotLow : ¬ exponent < -((digits.log2 : Int) + 400) := by omega
  unfold ofDecimal
  rw [if_neg hdigits, if_neg hnotHigh, if_neg hnotLow]
  by_cases hsign : 0 ≤ exponent
  · have hscale : (-exponent).toNat = 0 := by omega
    rw [if_pos hsign, ofQuotient, ofUnits, gridStep, gridScale, hscale, Nat.pow_eq,
      Nat.pow_eq, pow_zero, Nat.mul_assoc]
  · have hstep : exponent.toNat = 0 := by omega
    rw [if_neg hsign, ofQuotient, ofUnits, gridStep, gridScale, hstep, Nat.pow_eq,
      Nat.pow_eq, pow_zero, Nat.one_mul]

/-- The number nearest to the shortest decimal of a magnitude is the magnitude. -/
theorem ofDecimal_shortestDecimal (negative : Bool) {size : Magnitude} (hrank : 0 < size.rank)
    (hfinite : size.isFinite = true) :
    ofDecimal negative (shortestDecimal size).1 (shortestDecimal size).2 =
      signed negative size := by
  rcases shortestDecimal_fits hrank hfinite with ⟨hpoint, hfits, hlow, hhigh⟩
  rw [ofDecimal_eq_nearest negative hpoint (by omega) (by omega),
    nearest_eq_of_fitsGrid hrank hfits]

/-- Zeros behind the digits that are made up for by the exponent change nothing. -/
theorem ofDecimal_mul_ten (negative : Bool) {digits : Nat} {exponent : Int} (hdigits : digits ≠ 0)
    (hlow : 0 ≤ exponent) (hhigh : exponent ≤ 310) :
    ofDecimal negative (digits * 10 ^ exponent.toNat * 10) (-1) =
      ofDecimal negative digits exponent := by
  have hne : digits * 10 ^ exponent.toNat * 10 ≠ 0 := by
    simp [hdigits]
  rw [ofDecimal_eq_nearest negative hne (by decide) (by decide),
    ofDecimal_eq_nearest negative hdigits (by omega) hhigh]
  have hzero : (-exponent).toNat = 0 := by omega
  have hscale : gridScale (-1) = gridScale exponent * 10 := by
    rw [gridScale, gridScale, hzero]
    rfl
  have hstep : digits * 10 ^ exponent.toNat * 10 * gridStep (-1) =
      digits * gridStep exponent * 10 := by
    have hone : gridStep (-1) = unitsPerOne := by simp [gridStep]
    rw [hone, gridStep, Nat.pow_eq]
    ring
  rw [hscale, hstep]
  unfold nearest
  rw [nearestRank_mul_right _ (by decide : 0 < 10)]

/-!
## Digits with a point
-/

structure PlacedDigits (negative : Bool) (point : Nat) (exponent : Int)
    (whole fraction : List Char) : Prop where
  whole_digits : AllDigits whole
  whole_opens : whole = ['0'] ∨ exists c rest, whole = c :: rest ∧ c ≠ '0'
  fraction_digits : AllDigits fraction
  fraction_ne_nil : fraction ≠ []
  fraction_length : fraction.length = 1 ∨ (fraction.length : Int) = -exponent
  value : ofDecimal negative (Text.digitsValue (whole ++ fraction)) (-fraction.length) =
    ofDecimal negative point exponent

section Layouts

variable {negative : Bool} {point : Nat} {exponent : Int} {digits : List Char}

/-- The point before the digits, zeros behind it. -/
theorem placedDigits_before
    {zeros : Nat} (hall : AllDigits digits) (hvalue : Text.digitsValue digits = point)
    (hne : digits ≠ []) (hzeros : ((zeros + digits.length : Nat) : Int) = -exponent) :
    PlacedDigits negative point exponent ['0'] (List.replicate zeros '0' ++ digits) := by
  have hfraction : AllDigits (List.replicate zeros '0' ++ digits) :=
    (AllDigits.zeros zeros).append hall
  have hlength : ((List.replicate zeros '0' ++ digits).length : Int) = -exponent := by
    rw [List.length_append, List.length_replicate, hzeros]
  refine ⟨AllDigits.zeros 1, Or.inl rfl, hfraction, ?_, Or.inr hlength, ?_⟩
  · intro hnil
    exact hne (List.append_eq_nil_iff.mp hnil).2
  · have hzero := digitsValue_zeros_append hfraction 1
    rw [List.replicate_one] at hzero
    rw [hzero, digitsValue_zeros_append hall, hvalue, hlength, Int.neg_neg]

/-- The point behind the digits, zeros between them. -/
theorem placedDigits_behind
    {zeros : Nat} (hall : AllDigits digits) (hvalue : Text.digitsValue digits = point)
    (hopens : exists c rest, digits = c :: rest ∧ c ≠ '0') (hpoint : point ≠ 0)
    (hzeros : (zeros : Int) = exponent) (hhigh : exponent ≤ 310) :
    PlacedDigits negative point exponent (digits ++ List.replicate zeros '0') ['0'] := by
  rcases hopens with ⟨first, more, hcons, hfirst⟩
  refine ⟨hall.append (AllDigits.zeros zeros),
    Or.inr ⟨first, more ++ List.replicate zeros '0', ?_, hfirst⟩, AllDigits.zeros 1,
    List.cons_ne_nil _ _, Or.inl rfl, ?_⟩
  · rw [hcons, List.cons_append]
  · have hlast := digitsValue_append_zeros (hall.append (AllDigits.zeros zeros)) 1
    rw [List.replicate_one, Nat.pow_one] at hlast
    have hexponent : zeros = exponent.toNat := by omega
    rw [hlast, digitsValue_append_zeros hall, hvalue, hexponent]
    exact ofDecimal_mul_ten negative hpoint (by omega) hhigh

/-- The point among the digits. -/
theorem placedDigits_among
    {place : Nat} (hall : AllDigits digits) (hvalue : Text.digitsValue digits = point)
    (hopens : exists c rest, digits = c :: rest ∧ c ≠ '0') (hplace : place ≠ 0)
    (hlength : ((digits.drop place).length : Int) = -exponent) (hexponent : exponent < 0) :
    PlacedDigits negative point exponent (digits.take place) (digits.drop place) := by
  rcases hopens with ⟨first, more, hcons, hfirst⟩
  rcases Nat.exists_eq_succ_of_ne_zero hplace with ⟨before, rfl⟩
  refine ⟨hall.take _, Or.inr ⟨first, more.take before, ?_, hfirst⟩, hall.drop _, ?_,
    Or.inr hlength, ?_⟩
  · rw [hcons]
    rfl
  · intro hnil
    rw [hnil, List.length_nil] at hlength
    omega
  · rw [List.take_append_drop, hvalue, hlength, Int.neg_neg]

end Layouts

theorem placePoint_split
    (negative : Bool) {point : Nat} {exponent : Int} (hpoint : point ≠ 0)
    (hhigh : exponent ≤ 310) :
    exists whole fraction : List Char,
      placePoint (decimalDigits point) (exponent + (decimalDigits point).length) =
        whole ++ '.' :: fraction ∧ PlacedDigits negative point exponent whole fraction := by
  have hall := decimalDigits_allDigits point
  have hvalue := digitsValue_decimalDigits point
  have hne := decimalDigits_ne_nil point
  have hopens := decimalDigits_cons hpoint
  generalize decimalDigits point = digits at hall hvalue hne hopens ⊢
  unfold placePoint
  by_cases hsmall : exponent + digits.length ≤ 0
  · rw [if_pos hsmall]
    exact ⟨_, _, rfl, placedDigits_before hall hvalue hne (by omega)⟩
  · rw [if_neg hsmall]
    by_cases hlarge : (digits.length : Int) ≤ exponent + digits.length
    · rw [if_pos hlarge]
      exact ⟨_, _, rfl, placedDigits_behind hall hvalue hopens hpoint (by omega) hhigh⟩
    · rw [if_neg hlarge]
      refine ⟨_, _, rfl, placedDigits_among hall hvalue hopens (by omega) ?_ (by omega)⟩
      rw [List.length_drop]
      omega

end Binary64

end CatalogSearch
