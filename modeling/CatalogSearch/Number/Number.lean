import CatalogSearch.Number.Decimal

/-!
# Numbers of either kind

A bound may be given as an integer of any size or as a binary64 number.  It is compared with a
price by value, without rounding.
-/

namespace CatalogSearch

inductive Number
  | integer (value : Int)
  | binary (value : Binary64)
  deriving DecidableEq, Repr

namespace Number

def ltInteger (x : Binary64) (n : Int) : Bool :=
  match x with
  | .nan => false
  | .signed negative size =>
    if size.isFinite then x.toUnits < n * unitsPerOne else negative

def gtInteger (x : Binary64) (n : Int) : Bool :=
  match x with
  | .nan => false
  | .signed negative size =>
    if size.isFinite then n * unitsPerOne < x.toUnits else !negative

def exceeds (bound : Number) (price : Binary64) : Bool :=
  match bound with
  | integer n => ltInteger price n
  | binary x => price.lt x

def admits (bound : Number) (price : Binary64) : Bool :=
  match bound with
  | integer n => !price.isNaN && !gtInteger price n
  | binary x => price.le x

def text : Number -> List Char
  | integer n => integerText n
  | binary x => x.text

end Number

end CatalogSearch
