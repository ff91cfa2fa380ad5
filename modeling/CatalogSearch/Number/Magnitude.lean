/-!
# Magnitudes of binary64 numbers

The non-negative binary64 numbers, infinity included, form one increasing sequence.  A
magnitude is its place in that sequence.  Its size is measured in units of the smallest
positive number, so every finite magnitude is a whole number of units and infinity stands where
the next power of two would.

Rounding picks the nearest place, and of two places equally near the even one.
-/

namespace CatalogSearch

def binade : Nat := Nat.pow 2 52

@[irreducible]
def unitsPerOne : Nat := Nat.pow 2 1074

/-- A place in the sequence of non-negative numbers, the last of which is infinity. -/
structure Magnitude where
  rank : Nat
  rank_le : rank ≤ 2047 * binade
  deriving DecidableEq, Repr

namespace Magnitude

def infinite : Magnitude := ⟨2047 * binade, Nat.le_refl _⟩

def zero : Magnitude := ⟨0, Nat.zero_le _⟩

def ofRank (rank : Nat) : Magnitude :=
  ⟨min rank (2047 * binade), Nat.min_le_right _ _⟩

instance : Inhabited Magnitude := ⟨zero⟩

def isFinite (m : Magnitude) : Bool :=
  m.rank < 2047 * binade

/-- The size in units at a rank: the first two binades are evenly spaced, and the spacing doubles
from each binade to the next. -/
def unitsAt (rank : Nat) : Nat :=
  if rank < binade then rank else (binade + rank % binade) * Nat.pow 2 (rank / binade - 1)

def units (m : Magnitude) : Nat :=
  unitsAt m.rank

def rankBelow (size : Nat) : Nat :=
  (size.log2 - 52) * binade + size / Nat.pow 2 (size.log2 - 52)

/-- The rank nearest to a quotient of units, the even one of two equally near. -/
def nearestRank (num den : Nat) : Nat :=
  let rank := rankBelow (num / den)
  let middle := (unitsAt rank + unitsAt (rank + 1)) * den
  if 2 * num < middle then rank
  else if middle < 2 * num then rank + 1
  else rank + rank % 2

def nearest (num den : Nat) : Magnitude :=
  ofRank (nearestRank num den)

theorem unitsPerOne_pos : 0 < unitsPerOne := by
  unfold unitsPerOne
  exact Nat.two_pow_pos _

@[simp] theorem unitsAt_zero : unitsAt 0 = 0 := by simp [unitsAt, binade]

end Magnitude

end CatalogSearch
