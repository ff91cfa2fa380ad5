import CatalogSearch.Catalog.Warning
import CatalogSearch.Results.Ranking

/-!
# Explicit orders

A caller may ask for products by name, by id or by price in either direction.  Products that
are equal under an order keep the order in which they came, and unpriced ones come last.
-/

namespace CatalogSearch

open Text

inductive SortKey
  | name
  | priceAscending
  | priceDescending
  | id
  deriving DecidableEq, Repr

namespace SortKey

def all : List SortKey := [name, priceAscending, priceDescending, id]

def text : SortKey -> String
  | name => "name"
  | priceAscending => "price_asc"
  | priceDescending => "price_desc"
  | id => "id"

def ofName? (name : String) : Option SortKey :=
  all.find? fun key => key.text == name

def ofValue? (value : Json) : Option SortKey :=
  ofName? (String.ofList (lower (strip value.shown)))

/-- The order that a value asks for; null asks for none, and any other value that names no order is
reported. -/
def request (value : Json) : Reported (Option SortKey) :=
  match value with
  | .null => ⟨none, []⟩
  | value =>
    match ofValue? value with
    | some key => ⟨some key, []⟩
    | none => ⟨none, [.unknownSortKey value.quotedText]⟩

/-- Whether one price comes before or beside another in descending order, unpriced ones last. -/
def priceGe : Option Binary64 -> Option Binary64 -> Bool
  | some a, some b => b.place ≤ a.place
  | some _, none => true
  | none, none => true
  | none, some _ => false

def before : SortKey -> Product -> Product -> Bool
  | name, a, b => a.name ≤ b.name
  | id, a, b => a.id ≤ b.id
  | priceAscending, a, b => Scored.priceLe a.price b.price
  | priceDescending, a, b => priceGe a.price b.price

def sort (key : Option SortKey) (products : List Product) : List Product :=
  match key with
  | none => products
  | some key => products.mergeSort key.before

end SortKey

namespace SortIntent

def sortKey? : SortIntent -> Option SortKey
  | priceLow => some .priceAscending
  | priceHigh => some .priceDescending
  | _ => none

end SortIntent

end CatalogSearch
