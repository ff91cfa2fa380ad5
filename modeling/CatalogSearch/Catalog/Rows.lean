import CatalogSearch.Catalog.Warning

/-!
# Catalogs from rows

Every row that gives a product is kept, in order; every other row is reported and skipped.  A
price beyond the numbers is not a fault of its row alone: it ends the reading of the catalog.
-/

namespace CatalogSearch

abbrev Catalog := List Product

namespace Catalog

inductive RowOutcome
  /-- The row gives a product. -/
  | product (value : Product)
  /-- The row is skipped with a warning. -/
  | skipped (warning : Warning)
  /-- The row ends the reading of the catalog. -/
  | failed (cause : NumberError)
  deriving Repr

def readRow (position : Nat) : Json -> RowOutcome
  | .object members =>
    match Product.ofMembers members with
    | .ok product => .product product
    | .error (.price cause) => .failed cause
    | .error error => .skipped (.rowFault position error)
  | value => .skipped (.rowKind position value.kindName)

def ofRowsFrom (position : Nat) : List Json -> Reported (Except NumberError Catalog)
  | [] => .plain (.ok [])
  | row :: rest =>
    match readRow position row with
    | .product product => (ofRowsFrom (position + 1) rest).map (·.map (product :: ·))
    | .skipped warning => (ofRowsFrom (position + 1) rest).after warning
    | .failed cause => .plain (.error cause)

def ofRows (rows : List Json) : Reported (Except NumberError Catalog) :=
  ofRowsFrom 0 rows

end Catalog

end CatalogSearch
