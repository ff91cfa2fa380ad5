import CatalogSearch.Product.Basic

/-!
# Merging

Lists of products are put one after another, and of several products with one id the first is
kept.
-/

namespace CatalogSearch

namespace Product

/-- The products whose ids are new, each once. -/
def distinctAfter (seen : List String) : List Product -> List Product
  | [] => []
  | product :: rest =>
    if seen.contains product.id then distinctAfter seen rest
    else product :: distinctAfter (product.id :: seen) rest

def distinct (products : List Product) : List Product :=
  distinctAfter [] products

def merge (sources : List (List Product)) : List Product :=
  distinct sources.flatten

end Product

end CatalogSearch
