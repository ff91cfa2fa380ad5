import CatalogSearch.Query.Phrase
import CatalogSearch.Text.LowerCase
import CatalogSearch.Text.Occurrence

/-!
# The intent of a query

A reading of the everyday phrases of a query: a price bound, a brand, a category and an order.
The words that are left when every recognised phrase is blanked are the keywords.
-/

namespace CatalogSearch

open Text

namespace Phrase

def firstFound {α β : Type} (pattern : α -> Pattern β) (text : List Char) :
    List α -> Option (α × Pattern.Match β)
  | [] => none
  | entry :: rest =>
    match (pattern entry).search text with
    | some found => some (entry, found)
    | none => firstFound pattern text rest

/-- The condition that a price phrase stands for; a bound of zero says nothing. -/
def PriceBound.condition : PriceBound -> Option PricePredicate
  | atMost bound =>
    if bound.value.equals .zero then none else some (.compare .atMost bound.value)
  | atLeast bound =>
    if bound.value.equals .zero then none else some (.compare .atLeast bound.value)
  | range low high =>
    if low.value.equals .zero && high.value.equals .zero then none
    else some (.between low.value high.value)

def price? (query : List Char) : Option (PricePredicate × List Char) :=
  (firstFound (fun pattern => pattern) query prices).bind fun (_, found) =>
    found.value.condition.map fun condition => (condition, found.text)

def name? (names : List Name) (query : List Char) : Option (Name × List Char) :=
  (firstFound Name.pattern query names).map fun (name, found) => (name, collapse found.text)

def sort? (query : List Char) : Option (SortIntent × List Char) :=
  (firstFound Prod.fst query sorts).map fun (entry, found) => (entry.2, found.text)

def isKeyword (word : List Char) : Bool :=
  3 ≤ word.length && !stopwords.contains (String.ofList word)

def keywords (text : List Char) : List (List Char) :=
  ((words text).filter isKeyword).take 5

/-- A query without its price phrases, the two names, sort phrases and filler words. -/
def strippedOf (brand category : Option Name) (query : List Char) : List Char :=
  let priced := prices.foldl (fun text pattern => pattern.blankAll text) query
  let named := [brand, category].foldl (fun text name =>
    match name with
    | some name => name.pattern.blankAll text
    | none => text) priced
  let sorted := sorts.foldl (fun text entry => entry.1.blankAll text) named
  collapse (filler.blankAll sorted)

def withoutPhrases (phrases : List (List Char)) (text : List Char) : List Char :=
  collapse (phrases.foldl (fun text phrase =>
    if phrase.isEmpty then text else blankFirst phrase text) text)

end Phrase

namespace Reading

def ofPhrases (query : List Char) : Reading :=
  let normal := collapse (lower query)
  if normal.isEmpty then {}
  else
    let price := Phrase.price? normal
    let brand := Phrase.name? Phrase.brands normal
    let category := Phrase.name? Phrase.categories normal
    let sort := Phrase.sort? normal
    let residual := Phrase.strippedOf (brand.map (·.1)) (category.map (·.1)) normal
    {
      criteria := {
        price := price.map (·.1)
        terms := (Phrase.keywords residual).map String.ofList
        brand := brand.map fun (_, text) => String.ofList text
        category := category.map fun (_, text) => String.ofList text
        sort := sort.map (·.1)
      }
      residual := residual
      pricePhrase := price.map (·.2)
      sortPhrase := sort.map (·.2)
    }

end Reading

end CatalogSearch
