import CatalogSearch.Number.Magnitude

/-!
# Binary64 numbers

A number is either not a number or a sign with a magnitude.  Order and equality are those of
the numbers denoted, so the two zeros are equal and not-a-number is unordered.  Each operation
gives the number nearest to the exact result.
-/

namespace CatalogSearch

/-- A binary64 number. -/
inductive Binary64
  | nan
  | signed (negative : Bool) (size : Magnitude)
  deriving DecidableEq, Repr

namespace Binary64

def zero : Binary64 := signed false .zero

def infinity : Binary64 := signed false .infinite

instance : Inhabited Binary64 := ⟨zero⟩

def isFinite : Binary64 -> Bool
  | nan => false
  | signed _ size => size.isFinite

def isNaN : Binary64 -> Bool
  | nan => true
  | signed _ _ => false

/-! ## Conversion -/

/-- The number nearest to `num / den` units with the given sign. -/
def ofUnits (negative : Bool) (num den : Nat) : Binary64 :=
  signed negative (.nearest num den)

def ofQuotient (negative : Bool) (num den : Nat) : Binary64 :=
  ofUnits negative (num * unitsPerOne) den

def ofNat (n : Nat) : Binary64 :=
  ofQuotient false n 1

def ofInt (n : Int) : Binary64 :=
  ofQuotient (n < 0) n.natAbs 1

def ofInt? (n : Int) : Option Binary64 :=
  if (ofInt n).isFinite then some (ofInt n) else none

/-- The number nearest to `digits * 10 ^ exponent`.  Far beyond either end of the range the power
of ten is not formed. -/
def ofDecimal (negative : Bool) (digits : Nat) (exponent : Int) : Binary64 :=
  if digits = 0 then signed negative .zero
  else if 310 < exponent then signed negative .infinite
  else if exponent < -((digits.log2 : Int) + 400) then signed negative .zero
  else if 0 ≤ exponent then ofQuotient negative (digits * Nat.pow 10 exponent.toNat) 1
  else ofQuotient negative digits (Nat.pow 10 (-exponent).toNat)

/-- A finite number as a whole number of units, with its sign. -/
def toUnits : Binary64 -> Int
  | nan => 0
  | signed negative size => if negative then -(size.units : Int) else size.units

def isWhole : Binary64 -> Bool
  | nan => false
  | signed _ size => size.isFinite && size.units % unitsPerOne == 0

def truncate (x : Binary64) : Int :=
  x.toUnits.tdiv unitsPerOne

/-! ## Order -/

/-- The place of a number on the line of all numbers, where the two zeros share one place and what
is not a number is put last. -/
def place : Binary64 -> Int
  | nan => Nat.pow 2 64
  | signed negative size => if negative then -(size.rank : Int) else size.rank

def lt (x y : Binary64) : Bool :=
  !x.isNaN && !y.isNaN && x.place < y.place

def le (x y : Binary64) : Bool :=
  !x.isNaN && !y.isNaN && x.place ≤ y.place

def equals (x y : Binary64) : Bool :=
  !x.isNaN && !y.isNaN && x.place == y.place

def max (x y : Binary64) : Binary64 :=
  if x.lt y then y else x

def min (x y : Binary64) : Binary64 :=
  if y.lt x then y else x

/-! ## Arithmetic -/

def neg : Binary64 -> Binary64
  | nan => nan
  | signed negative size => signed (!negative) size

def add : Binary64 -> Binary64 -> Binary64
  | signed s a, signed t b =>
    if !a.isFinite then if !b.isFinite && s != t then nan else signed s a
    else if !b.isFinite then signed t b
    else
      let total := toUnits (signed s a) + toUnits (signed t b)
      if total = 0 then signed (s && t) .zero else ofUnits (total < 0) total.natAbs 1
  | _, _ => nan

def sub (x y : Binary64) : Binary64 :=
  x.add y.neg

def mul : Binary64 -> Binary64 -> Binary64
  | signed s a, signed t b =>
    if a.isFinite && b.isFinite then ofUnits (s != t) (a.units * b.units) unitsPerOne
    else if a.rank = 0 ∨ b.rank = 0 then nan
    else signed (s != t) .infinite
  | _, _ => nan

def div : Binary64 -> Binary64 -> Binary64
  | signed s a, signed t b =>
    if !a.isFinite then if b.isFinite then signed (s != t) .infinite else nan
    else if !b.isFinite then signed (s != t) .zero
    else if b.rank = 0 then if a.rank = 0 then nan else signed (s != t) .infinite
    else ofUnits (s != t) (a.units * unitsPerOne) b.units
  | _, _ => nan

instance : Add Binary64 := ⟨add⟩
instance : Sub Binary64 := ⟨sub⟩
instance : Mul Binary64 := ⟨mul⟩
instance : Div Binary64 := ⟨div⟩
instance : Neg Binary64 := ⟨neg⟩

/-! ## Laws -/

theorem lt_iff {x y : Binary64} :
    x.lt y = true <-> x.isNaN = false ∧ y.isNaN = false ∧ x.place < y.place := by
  simp [lt, and_assoc]

theorem le_iff {x y : Binary64} :
    x.le y = true <-> x.isNaN = false ∧ y.isNaN = false ∧ x.place ≤ y.place := by
  simp [le, and_assoc]

theorem isNaN_eq_false_of_isFinite {x : Binary64} (h : x.isFinite = true) : x.isNaN = false := by
  cases x with
  | nan => simp [isFinite] at h
  | signed negative size => rfl

end Binary64

end CatalogSearch
