import CatalogSearch.Query.Expression
import CatalogSearch.Query.Intent

/-!
# The interpretation of a query

The strict expressions are read first and the everyday phrases in what they leave.  The id and
the price come from the expressions, or else the price from a phrase.  A phrase that took
effect is lifted out of the words that have to be found, and so are the stopwords.
-/

namespace CatalogSearch

open Text

namespace Reading

/-- Whether a phrase is a part of a name that was recognised. -/
def isPartOfName (phrase : List Char) (names : List (Option String)) : Bool :=
  names.any fun name => name.any fun text => !text.isEmpty && occursIn phrase text.toList

def liftedPhrases (expressions phrases : Reading) : List (List Char) :=
  let price := if expressions.criteria.price.isNone && phrases.criteria.price.isSome then
    phrases.pricePhrase.toList else []
  let sort := phrases.sortPhrase.toList.filter fun phrase =>
    !phrase.isEmpty && !isPartOfName phrase [phrases.criteria.brand, phrases.criteria.category]
  price ++ sort

def requiredTerms (expressions phrases : Reading) : List String :=
  let lifted := liftedPhrases expressions phrases
  let terms :=
    if lifted.isEmpty then expressions.criteria.terms
    else (words (Phrase.withoutPhrases lifted expressions.residual)).map String.ofList
  terms.filter fun term => !Phrase.stopwords.contains term

def ofQuery (query : List Char) : Reading :=
  let expressions := ofExpressions query
  let phrases := ofPhrases expressions.residual
  { phrases with
    criteria := {
      id := expressions.criteria.id
      price := expressions.criteria.price.or phrases.criteria.price
      terms := requiredTerms expressions phrases
      brand := phrases.criteria.brand
      category := phrases.criteria.category
      sort := phrases.criteria.sort
    } }

/-- The text for an approximate search: the keywords, or else the brand and the category. -/
def approximateText (reading : Reading) : List Char :=
  match Phrase.keywords reading.residual with
  | [] =>
    joinWords (([reading.criteria.brand, reading.criteria.category].filterMap fun name => name).map
      String.toList |>.filter fun name => !name.isEmpty)
  | keywords => joinWords keywords

end Reading

end CatalogSearch
