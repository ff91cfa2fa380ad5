import CatalogSearch.Number.Number
import CatalogSearch.Product.Basic
import CatalogSearch.Text.Blank
import CatalogSearch.Text.CaseFold

/-!
# Refinements

A refinement narrows a catalog to a brand, a category and a span of prices before anything is
searched for.  Brand and category are compared without regard to letter case.
-/

namespace CatalogSearch

open Text

structure Refinement where
  brand : Option String := none
  category : Option String := none
  minPrice : Option Number := none
  maxPrice : Option Number := none
  deriving DecidableEq, Repr, Inhabited

namespace Refinement

/-- Whether a name is asked for: an empty one is not. -/
def asksFor (name : Option String) : Bool :=
  name.any (· != "")

def isEmpty (refinement : Refinement) : Bool :=
  !asksFor refinement.brand && !asksFor refinement.category && refinement.minPrice.isNone &&
    refinement.maxPrice.isNone

def nameAgrees (wanted actual : Option String) : Bool :=
  match wanted with
  | none => true
  | some wanted =>
    wanted == "" || foldCase (actual.getD "").toList == foldCase (strip wanted.toList)

def priceAgrees (low high : Option Number) (price : Option Binary64) : Bool :=
  if low.isNone && high.isNone then true
  else match price with
    | none => false
    | some price => !low.any (·.exceeds price) && high.all (·.admits price)

def holds (refinement : Refinement) (product : Product) : Bool :=
  nameAgrees refinement.brand product.brand && nameAgrees refinement.category product.category &&
    priceAgrees refinement.minPrice refinement.maxPrice product.price

def narrow (refinement : Refinement) (catalog : List Product) : List Product :=
  if refinement.isEmpty then catalog else catalog.filter refinement.holds

end Refinement

end CatalogSearch
