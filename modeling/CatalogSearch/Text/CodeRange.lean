/-!
# Ranges of code points

A property of characters is stored as an increasing list of closed ranges of code points.
-/

namespace CatalogSearch.Text

abbrev CodeRange := Nat × Nat

namespace CodeRange

/-- Membership in an increasing list of ranges; the search ends at the first range beyond. -/
def contains : List CodeRange -> Nat -> Bool
  | [], _ => false
  | (first, last) :: rest, code =>
    if code < first then false else code ≤ last || contains rest code

end CodeRange

end CatalogSearch.Text
