import CatalogSearch.Catalog.Rows
import CatalogSearch.Fuzzy.Phonetic
import CatalogSearch.Fuzzy.Similarity
import CatalogSearch.Text.Transliteration

/-!
# Approximate search

A matcher proposes products for a text.  The usual one scores each product by the likeness of
the text and the product's name and description, in spelling or in sound, and proposes those
that are like enough, best first.  Normal form, sounds and ratios are tools of a matcher, and
any tools make one; `Tools.usual` are the ones to run with.
-/

namespace CatalogSearch

inductive MatcherAnswer
  /-- Products with their scores, best first. -/
  | candidates (products : List (Product × Binary64))
  /-- No answer. -/
  | nothing
  /-- A failure. -/
  | failed
  deriving Repr

abbrev Matcher := List Char -> Catalog -> MatcherAnswer

/-- A measure of likeness between a text in normal form and a product. -/
abbrev Likeness := List Char -> Product -> Binary64

namespace Fuzzy

/-- The parts that a comparison is made with: the ASCII spelling of a character, two codes for how a
word sounds, and a ratio of two texts from 0 to 100. -/
structure Tools where
  spell : Char -> List Char
  sound : List Char -> List Char × List Char
  ratio : List Char -> List Char -> Binary64

def Tools.usual : Tools :=
  ⟨Text.asciiSpelling, Phonetic.sound, Similarity.weightedRatio⟩

def comparedText (tools : Tools) (product : Product) : List Char :=
  Text.normalizeBy tools.spell (product.name.toList ++ ' ' :: product.description.toList)

def soundShare (wordCodes : List (List (List Char))) (codes : List (List Char)) : Binary64 :=
  if wordCodes.isEmpty then .zero
  else .ofQuotient false (wordCodes.countP fun word => word.any codes.contains) wordCodes.length

def likenessBy (tools : Tools) (query : List Char) (codes : List (List (List Char)))
    (product : Product) : Binary64 :=
  let compared := comparedText tools product
  if compared.isEmpty then .zero
  else (tools.ratio query compared / .ofNat 100).max
    (soundShare codes (Phonetic.textCodesBy tools.sound compared).flatten)

def likeness (query : List Char) (codes : List (List (List Char))) (product : Product) : Binary64 :=
  likenessBy .usual query codes product

def isNear (threshold score : Binary64) : Bool :=
  (Binary64.ofNat 1 - score).le threshold

def isNearer (a b : Product × Binary64) : Bool :=
  b.2.place ≤ a.2.place

/-- The scored products within the threshold, best first; equal scores keep their order. -/
def near (threshold : Binary64) (scored : List (Product × Binary64)) : List (Product × Binary64) :=
  (scored.filter fun entry => isNear threshold entry.2).mergeSort isNearer

/-- The products that resemble a text, by a normal form and a measure of likeness. -/
def searchBy (normalize : List Char -> List Char) (measure : Likeness) (threshold : Binary64)
    (query : List Char) (catalog : Catalog) : List (Product × Binary64) :=
  let normal := normalize query
  if normal.isEmpty then []
  else near threshold (catalog.map fun product => (product, measure normal product))

def search (measure : Likeness) (threshold : Binary64) (query : List Char) (catalog : Catalog) :
    List (Product × Binary64) :=
  searchBy Text.normalize measure threshold query catalog

def spellingOrSoundBy (tools : Tools) : Likeness := fun query =>
  let codes := Phonetic.textCodesBy tools.sound query
  fun product => likenessBy tools query codes product

def spellingOrSound : Likeness :=
  spellingOrSoundBy .usual

def matcherBy (normalize : List Char -> List Char) (measure : Likeness) (threshold : Binary64) :
    Matcher := fun query catalog =>
  .candidates (searchBy normalize measure threshold query catalog)

def matcher (threshold : Binary64) : Matcher :=
  matcherBy Text.normalize spellingOrSound threshold

end Fuzzy

end CatalogSearch
