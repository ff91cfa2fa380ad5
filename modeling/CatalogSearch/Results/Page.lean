import CatalogSearch.Product.Basic

/-!
# Pages

A page is a slice of a list of products.  Pages are counted from one, and page and size are at
least one.
-/

namespace CatalogSearch

structure Page where
  items : List Product
  total : Nat
  current : Nat
  size : Nat
  hasMore : Bool
  deriving Repr

namespace Page

def atLeastOne (n : Int) : Nat :=
  max n.toNat 1

def ofList (products : List Product) (page size : Int) : Page :=
  let current := atLeastOne page
  let size := atLeastOne size
  let start := (current - 1) * size
  {
    items := (products.drop start).take size
    total := products.length
    current := current
    size := size
    hasMore := start + size < products.length
  }

theorem one_le_atLeastOne (n : Int) : 1 ≤ atLeastOne n :=
  Nat.le_max_right _ _

end Page

end CatalogSearch
