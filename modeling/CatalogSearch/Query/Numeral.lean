import CatalogSearch.Number.Binary64
import CatalogSearch.Query.Pattern

/-!
# Numerals in a query

A numeral is a run of digits with an optional point and one or two decimals.  A free numeral
touches no other word character or point on its left and is not continued on its right.
-/

namespace CatalogSearch

open Text

namespace Pattern

structure Digits where
  whole : List Char
  fraction : List Char
  deriving DecidableEq, Repr

def Digits.value (digits : Digits) : Binary64 :=
  .ofDecimal false (digitsValue (digits.whole ++ digits.fraction)) (-digits.fraction.length)

def digit : Pattern Char :=
  charWhere isDigit

def decimals : Pattern (List Char) := do
  let _ ← charWhere (· == '.')
  let first ← digit
  let second ← perhaps digit
  pure (first :: second.toList)

def numeral : Pattern Digits := do
  let whole ← someWhere isDigit
  let fraction ← perhaps decimals
  pure ⟨whole, fraction.getD []⟩

/-- A place that continues no word and no number. -/
def freshPlace : Pattern Unit := fun prev text =>
  if prev.any fun c => isWordChar c || c == '.' then none else some ⟨(), [], text⟩

/-- Whether a text carries a number on: a word character, or a point with a digit. -/
def continuesNumber : List Char -> Bool
  | '.' :: c :: _ => isDigit c
  | c :: _ => isWordChar c
  | [] => false

def numberEnd : Pattern Unit := fun _ text =>
  if continuesNumber text then none else some ⟨(), [], text⟩

def freeNumeral : Pattern Digits := do
  freshPlace
  let digits ← numeral
  numberEnd
  pure digits

def perhapsDollar : Pattern Unit := do
  let _ ← perhaps (charWhere (· == '$'))
  pure ()

def amount : Pattern Digits := do
  perhapsDollar
  numeral

end Pattern

end CatalogSearch
