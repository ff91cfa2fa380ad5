import CatalogSearch.Product.Basic

/-!
# Facets

The brands, the categories and the span of prices of a list of products.
-/

namespace CatalogSearch

structure Facets where
  brands : List String := []
  categories : List String := []
  minPrice : Option Binary64 := none
  maxPrice : Option Binary64 := none
  deriving DecidableEq, Repr

namespace Facets

def names (values : List (Option String)) : List String :=
  ((values.filterMap fun value => value).filter (· != "")).eraseDups.mergeSort (· ≤ ·)

def least : List Binary64 -> Option Binary64
  | [] => none
  | first :: rest => some (rest.foldl Binary64.min first)

def greatest : List Binary64 -> Option Binary64
  | [] => none
  | first :: rest => some (rest.foldl Binary64.max first)

def ofList (products : List Product) : Facets :=
  let prices := products.filterMap (·.price)
  {
    brands := names (products.map (·.brand))
    categories := names (products.map (·.category))
    minPrice := least prices
    maxPrice := greatest prices
  }

end Facets

end CatalogSearch
