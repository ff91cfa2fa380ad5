import CatalogSearch.Number.Binary64

/-!
# The order of binary64 numbers

Among numbers the strict and the weak order exclude each other as usual; what
is not a number stands in neither, and no sum with a finite number is one.
-/

namespace CatalogSearch

namespace Binary64

theorem lt_trans {x y z : Binary64} (hxy : x.lt y = true) (hyz : y.lt z = true) :
    x.lt z = true := by
  rcases lt_iff.mp hxy with ⟨hx, _, hfirst⟩
  rcases lt_iff.mp hyz with ⟨_, hz, hsecond⟩
  exact lt_iff.mpr ⟨hx, hz, Int.lt_trans hfirst hsecond⟩

theorem lt_irrefl (x : Binary64) :
    x.lt x = false := by
  cases h : x.lt x with
  | false => rfl
  | true => exact absurd (lt_iff.mp h).2.2 (Int.lt_irrefl _)

theorem le_of_not_lt {x y : Binary64} (hx : x.isNaN = false) (hy : y.isNaN = false)
    (h : y.lt x = false) : x.le y = true := by
  apply le_iff.mpr
  refine ⟨hx, hy, Int.not_lt.mp ?_⟩
  intro hplace
  rw [lt_iff.mpr ⟨hy, hx, hplace⟩] at h
  cases h

theorem lt_of_not_le {x y : Binary64} (hx : x.isNaN = false) (hy : y.isNaN = false)
    (h : ¬ x.le y = true) : y.lt x = true := by
  rw [lt_iff]
  refine ⟨hy, hx, Int.not_le.mp ?_⟩
  intro hplace
  exact h (le_iff.mpr ⟨hx, hy, hplace⟩)

theorem not_le_of_lt {x y : Binary64} (h : y.lt x = true) : ¬ x.le y = true := by
  intro hle
  exact absurd (le_iff.mp hle).2.2 (Int.not_le.mpr (lt_iff.mp h).2.2)

theorem not_lt_eq_le {x y : Binary64} (hx : x.isNaN = false) (hy : y.isNaN = false) :
    (!y.lt x) = x.le y := by
  cases hlt : y.lt x with
  | false => exact (le_of_not_lt hx hy hlt).symm
  | true => exact (Bool.eq_false_iff.mpr (not_le_of_lt hlt)).symm

theorem le_trans {x y z : Binary64} (hxy : x.le y = true) (hyz : y.le z = true) :
    x.le z = true := by
  rw [le_iff] at hxy hyz ⊢
  exact ⟨hxy.1, hyz.2.1, Int.le_trans hxy.2.2 hyz.2.2⟩

theorem equals_iff {x y : Binary64} :
    x.equals y = true <-> x.isNaN = false ∧ y.isNaN = false ∧ x.place = y.place := by
  simp [equals, and_assoc]

theorem equals_comm (x y : Binary64) :
    x.equals y = y.equals x := by
  rw [Bool.eq_iff_iff, equals_iff, equals_iff]
  exact ⟨fun ⟨hx, hy, h⟩ => ⟨hy, hx, h.symm⟩, fun ⟨hy, hx, h⟩ => ⟨hx, hy, h.symm⟩⟩

theorem lt_iff_le_not_equals {x y : Binary64} :
    x.lt y = true <-> x.le y = true ∧ ¬ x.equals y = true := by
  rw [lt_iff, le_iff, equals_iff]
  constructor
  · rintro ⟨hx, hy, h⟩
    exact ⟨⟨hx, hy, Int.le_of_lt h⟩, fun heq => Int.ne_of_lt h heq.2.2⟩
  · rintro ⟨⟨hx, hy, h⟩, hne⟩
    exact ⟨hx, hy, Int.lt_iff_le_and_ne.mpr ⟨h, fun heq => hne ⟨hx, hy, heq⟩⟩⟩

theorem isNaN_add {x y : Binary64} (hx : x.isNaN = false) (hy : y.isFinite = true) :
    (x + y).isNaN = false := by
  show (add x y).isNaN = false
  cases x with
  | nan => cases hx
  | signed s a =>
      cases y with
      | nan => cases hy
      | signed t b =>
          have hb : b.isFinite = true := hy
          simp only [add, hb, Bool.not_true, Bool.false_and, Bool.false_eq_true, if_false]
          split
          · rfl
          · split <;> rfl

end Binary64

end CatalogSearch
