import CatalogSearch.Query.Reading

/-!
# The canonical text of a reading

A reading is shown as its residual text followed by what was recognised, in a fixed order and
each after its mark.
-/

namespace CatalogSearch

namespace PricePredicate

/-- The condition as the canonical text shows it: inclusive comparisons lose their equals sign. -/
def canonical : PricePredicate -> List Char
  | compare .atLeast value => "price:>".toList ++ value.compactText
  | compare .atMost value => "price:<".toList ++ value.compactText
  | other => other.describe

end PricePredicate

namespace Reading

def marked (mark : String) : Option String -> List Char
  | some text => if text.isEmpty then [] else mark.toList ++ text.toList
  | none => []

/-- The parts of the canonical text, empty ones included. -/
def canonicalParts (reading : Reading) : List (List Char) :=
  [reading.residual,
    marked "brand:" reading.criteria.brand,
    marked "category:" reading.criteria.category,
    (reading.criteria.price.map PricePredicate.canonical).getD [],
    marked "sort:" (reading.criteria.sort.map SortIntent.name)]

def joinParts : List (List Char) -> List Char
  | [] => []
  | [part] => part
  | part :: rest => part ++ ' ' :: joinParts rest

def canonical (reading : Reading) : List Char :=
  joinParts (reading.canonicalParts.filter fun part => !part.isEmpty)

end Reading

end CatalogSearch
