import CatalogSearch.Price.Predicate

/-!
# Readings of a query

A reading says what a query asks for: conditions on the id and the price, words to be found,
the brand, the category and the order that it names, and the text that is left.
-/

namespace CatalogSearch

inductive SortIntent
  | priceLow
  | priceHigh
  | rating
  | newest
  | relevance
  deriving DecidableEq, Repr

namespace SortIntent

def name : SortIntent -> String
  | priceLow => "price_low"
  | priceHigh => "price_high"
  | rating => "rating"
  | newest => "newest"
  | relevance => "relevance"

def ofName? (name : String) : Option SortIntent :=
  [priceLow, priceHigh, rating, newest, relevance].find? fun intent => intent.name == name

end SortIntent

structure Criteria where
  id : Option String := none
  price : Option PricePredicate := none
  terms : List String := []
  brand : Option String := none
  category : Option String := none
  sort : Option SortIntent := none
  deriving DecidableEq, Repr, Inhabited

structure Reading where
  criteria : Criteria := {}
  /-- The text in which nothing was recognised. -/
  residual : List Char := []
  /-- The price phrase that was recognised, as typed. -/
  pricePhrase : Option (List Char) := none
  /-- The sort phrase that was recognised, as typed. -/
  sortPhrase : Option (List Char) := none
  deriving DecidableEq, Repr, Inhabited

namespace Reading

/-- The confidence of a reading: every signal raises it, but it starts at its limit of one. -/
def confidence (_ : Reading) : Binary64 :=
  .ofNat 1

end Reading

end CatalogSearch
