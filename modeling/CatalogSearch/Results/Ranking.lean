import CatalogSearch.Catalog.Rows
import CatalogSearch.Query.Reading
import CatalogSearch.Text.LowerCase
import CatalogSearch.Text.Occurrence

/-!
# Ranking

A product meets criteria if its id and price do and every term occurs in its name or its
description.  Its score adds up what the id and the terms are worth.  Products are ranked by
score, then priced ones before others, then by price, then by name.
-/

namespace CatalogSearch

open Text

namespace Criteria

/-! ## Conditions -/

/-- What an id is worth against the one asked for: the same id, one that contains it, or none. -/
def idScore? (wanted id : String) : Option Nat :=
  if id = wanted then some 1000
  else if occursIn wanted.toList id.toList then some 500
  else none

def idPoints? (criteria : Criteria) (product : Product) : Option Nat :=
  match criteria.id with
  | none => some 0
  | some wanted => idScore? wanted product.id

def admitsPrice (criteria : Criteria) (product : Product) : Bool :=
  criteria.price.all (·.holds product.price)

def admits (criteria : Criteria) (product : Product) : Bool :=
  product.id != "" && (criteria.idPoints? product).isSome && criteria.admitsPrice product

/-! ## Scores -/

/-- What a term is worth in a name and a description: five and three for each that contains it. -/
def termPoints? (name description term : List Char) : Option Nat :=
  let inName := occursIn term name
  let inDescription := occursIn term description
  if !inName && !inDescription then none
  else some ((if inName then 5 else 0) + if inDescription then 3 else 0)

def termsPoints? (name description : List Char) : List (List Char) -> Option Nat
  | [] => some 0
  | term :: rest => do
    let points ← termPoints? name description term
    let others ← termsPoints? name description rest
    pure (points + others)

def score? (criteria : Criteria) (product : Product) : Option Nat :=
  if product.id = "" then none
  else do
    let idPoints ← criteria.idPoints? product
    if criteria.admitsPrice product then
      let termPoints ← termsPoints? (lower product.name.toList) (lower product.description.toList)
        (criteria.terms.map String.toList)
      pure (idPoints + termPoints)
    else none

end Criteria

/-! ## Order -/

structure Scored where
  product : Product
  score : Nat
  deriving DecidableEq, Repr

namespace Scored

/-- Whether one price comes before or beside another: priced before unpriced, then by value. -/
def priceLe : Option Binary64 -> Option Binary64 -> Bool
  | some a, some b => a.place ≤ b.place
  | some _, none => true
  | none, none => true
  | none, some _ => false

def ranksBefore (a b : Scored) : Bool :=
  if a.score ≠ b.score then b.score < a.score
  else if !priceLe b.product.price a.product.price then true
  else if !priceLe a.product.price b.product.price then false
  else a.product.name ≤ b.product.name

end Scored

namespace Catalog

def scored (criteria : Criteria) (catalog : Catalog) : List Scored :=
  catalog.filterMap fun product => (criteria.score? product).map fun score => ⟨product, score⟩

def ranked (criteria : Criteria) (catalog : Catalog) : List Product :=
  ((catalog.scored criteria).mergeSort Scored.ranksBefore).map (·.product)

end Catalog

end CatalogSearch
