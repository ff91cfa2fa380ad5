import CatalogSearch.Number.Decimal

/-!
# Conditions on a price

A condition is one comparison with a value or an inclusive range.  A product without a price
meets no condition.
-/

namespace CatalogSearch

inductive Comparison
  | equal
  | less
  | greater
  | atMost
  | atLeast
  deriving DecidableEq, Repr

namespace Comparison

def sign : Comparison -> List Char
  | equal => ['=']
  | less => ['<']
  | greater => ['>']
  | atMost => ['<', '=']
  | atLeast => ['>', '=']

def ofSign? (sign : String) : Option Comparison :=
  [equal, less, greater, atMost, atLeast].find? fun op => op.sign == sign.toList

def holds (op : Comparison) (price value : Binary64) : Bool :=
  match op with
  | equal => price.equals value
  | less => price.lt value
  | greater => value.lt price
  | atMost => price.le value
  | atLeast => value.le price

end Comparison

inductive PricePredicate
  | compare (op : Comparison) (value : Binary64)
  | range (low high : Binary64)
  deriving DecidableEq, Repr

namespace PricePredicate

/-- The range between two bounds given in either order. -/
def between (a b : Binary64) : PricePredicate :=
  if b.lt a then range b a else range a b

/-- Whether a price meets the condition; a missing price never does. -/
def holds (predicate : PricePredicate) : Option Binary64 -> Bool
  | none => false
  | some price =>
    match predicate with
    | compare op value => op.holds price value
    | range low high => low.le price && price.le high

def describe : PricePredicate -> List Char
  | compare op value => "price:".toList ++ op.sign ++ value.compactText
  | range low high => "price:".toList ++ low.compactText ++ '-' :: high.compactText

end PricePredicate

end CatalogSearch
