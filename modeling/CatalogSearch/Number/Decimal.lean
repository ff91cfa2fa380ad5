import CatalogSearch.Number.Binary64
import CatalogSearch.Text.Digit

/-!
# Decimal text of numbers

Two ways to write a number.  The shortest text has the fewest digits that read back as the
number: of the grids of powers of ten the coarsest with a point among the reals that round to
it, and on that grid the point nearest to it.  Fixed places round the exact value, a half going
to the even digit.
-/

namespace CatalogSearch

def decimalDigits (n : Nat) : List Char :=
  Nat.toDigits 10 n

def padZeros (length : Nat) (text : List Char) : List Char :=
  List.replicate (length - text.length) '0' ++ text

def integerText (n : Int) : List Char :=
  if n < 0 then '-' :: decimalDigits n.natAbs else decimalDigits n.natAbs

namespace Binary64

/-! ## The shortest decimal -/

/-- Twice the bounds, in units, of the reals that round to a finite magnitude above zero. -/
def roundingBounds (size : Magnitude) : Nat × Nat :=
  (Magnitude.unitsAt (size.rank - 1) + size.units, size.units + Magnitude.unitsAt (size.rank + 1))

def roundQuotient (num den : Nat) : Nat :=
  let floor := num / den
  let rest := 2 * (num % den)
  if rest < den then floor
  else if den < rest then floor + 1
  else floor + floor % 2

def gridScale (exponent : Int) : Nat := Nat.pow 10 (-exponent).toNat

def gridStep (exponent : Int) : Nat := Nat.pow 10 exponent.toNat * unitsPerOne

/-- Whether a point of a grid rounds to a magnitude; the bounds belong to an even magnitude. -/
def fitsGrid (size : Magnitude) (exponent : Int) (point : Nat) : Bool :=
  let low := (roundingBounds size).1 * gridScale exponent
  let high := (roundingBounds size).2 * gridScale exponent
  let twice := 2 * point * gridStep exponent
  if size.rank % 2 = 0 then low ≤ twice && twice ≤ high else low < twice && twice < high

def nearestPoint (size : Magnitude) (exponent : Int) : Nat :=
  roundQuotient (size.units * gridScale exponent) (gridStep exponent)

def otherPoint (size : Magnitude) (exponent : Int) : Nat :=
  let nearest := nearestPoint size exponent
  if nearest * gridStep exponent ≤ size.units * gridScale exponent then nearest + 1
  else nearest - 1

/-- The digits of the point of the grid `10 ^ exponent` that stands for a magnitude, if one of
the two neighbours of the value rounds to it. -/
def gridPoint? (size : Magnitude) (exponent : Int) : Option Nat :=
  let nearest := nearestPoint size exponent
  let other := otherPoint size exponent
  if nearest ≠ 0 && fitsGrid size exponent nearest then some nearest
  else if other ≠ 0 && fitsGrid size exponent other then some other
  else none

def searchGrid (point? : Int -> Option Nat) : Nat -> Int -> Option (Nat × Int)
  | 0, _ => none
  | steps + 1, exponent =>
    match point? exponent with
    | some digits => some (digits, exponent)
    | none => searchGrid point? steps (exponent - 1)

/-- An exponent such that no coarser grid has a point for the magnitude: a power of ten that is at
most the upper bound has at most a third of its binary digits as exponent. -/
def coarsestExponent (size : Magnitude) : Nat :=
  ((roundingBounds size).2 / (2 * unitsPerOne)).log2 / 3

def shortestDecimal (size : Magnitude) : Nat × Int :=
  (searchGrid (gridPoint? size) 700 (coarsestExponent size)).getD (0, 0)

/-! ## Layout -/

structure ShortestLayout where
  /-- The least exponent of the first digit that is written positionally. -/
  leastPositional : Int
  /-- The greatest exponent of the first digit that is written positionally. -/
  greatestPositional : Int
  /-- The least number of digits of a written exponent. -/
  exponentDigits : Nat
  notANumber : String
  infinite : String

/-- Whole numbers keep one decimal; from 10^16 on and below 10^-4 an exponent is written. -/
def plainLayout : ShortestLayout :=
  ⟨-4, 15, 2, "nan", "inf"⟩

def documentLayout : ShortestLayout :=
  ⟨-4, 15, 2, "NaN", "Infinity"⟩

/-- Digits with a point after the first `whole` of them, padded to at least one digit on both
sides. -/
def placePoint (digits : List Char) (whole : Int) : List Char :=
  if whole ≤ 0 then '0' :: '.' :: List.replicate (-whole).toNat '0' ++ digits
  else if (digits.length : Int) ≤ whole then
    digits ++ List.replicate (whole.toNat - digits.length) '0' ++ ['.', '0']
  else digits.take whole.toNat ++ '.' :: digits.drop whole.toNat

def scientific (layout : ShortestLayout) (digits : List Char) (exponent : Int) : List Char :=
  let mantissa := match digits with
    | first :: second :: rest => first :: '.' :: second :: rest
    | short => short
  mantissa ++ 'e' :: (if exponent < 0 then '-' else '+') ::
    padZeros layout.exponentDigits (decimalDigits exponent.natAbs)

def magnitudeText (layout : ShortestLayout) (size : Magnitude) : List Char :=
  if size.rank = 0 then ['0', '.', '0']
  else
    let (point, exponent) := shortestDecimal size
    let digits := decimalDigits point
    let leading := exponent + digits.length - 1
    if layout.leastPositional ≤ leading && leading ≤ layout.greatestPositional then
      placePoint digits (leading + 1)
    else scientific layout digits leading

def shortestText (layout : ShortestLayout) : Binary64 -> List Char
  | nan => layout.notANumber.toList
  | signed negative size =>
    (if negative then ['-'] else []) ++
      if size.isFinite then magnitudeText layout size else layout.infinite.toList

def text (x : Binary64) : List Char :=
  shortestText plainLayout x

/-- A whole number without a decimal point, any other number as the shortest text. -/
def compactText (x : Binary64) : List Char :=
  if x.isWhole then integerText x.truncate else x.text

/-! ## Fixed places -/

def stepsAt (places : Nat) (size : Magnitude) : Nat :=
  roundQuotient (size.units * Nat.pow 10 places) unitsPerOne

def fixedText (places : Nat) : Binary64 -> List Char
  | nan => ['n', 'a', 'n']
  | signed negative size =>
    (if negative then ['-'] else []) ++
      if size.isFinite then
        let digits := padZeros (places + 1) (decimalDigits (stepsAt places size))
        digits.take (digits.length - places) ++ '.' :: digits.drop (digits.length - places)
      else ['i', 'n', 'f']

def roundPlaces (places : Nat) : Binary64 -> Binary64
  | nan => nan
  | signed negative size =>
    if size.isFinite then ofDecimal negative (stepsAt places size) (-places)
    else signed negative size

end Binary64

end CatalogSearch
