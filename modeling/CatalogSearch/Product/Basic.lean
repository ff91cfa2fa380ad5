import CatalogSearch.Json.Basic

/-!
# Products

A product as the catalog lists it.
-/

namespace CatalogSearch

structure Product where
  id : String
  name : String := ""
  description : String := ""
  price : Option Binary64 := none
  brand : Option String := none
  category : Option String := none
  url : Option String := none
  image : Option String := none
  deriving DecidableEq, Repr, Inhabited

namespace Product

def toJson (product : Product) : Json :=
  .object [
    ("id", .string product.id),
    ("name", .string product.name),
    ("description", .string product.description),
    ("price", .ofNumber? product.price),
    ("brand", .ofText? product.brand),
    ("category", .ofText? product.category),
    ("url", .ofText? product.url),
    ("image", .ofText? product.image)]

end Product

end CatalogSearch
