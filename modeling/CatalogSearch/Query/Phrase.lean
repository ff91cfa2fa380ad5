import CatalogSearch.Query.Numeral
import CatalogSearch.Query.Reading

/-!
# Phrases of everyday queries

The phrases by which a query names a price, a brand, a category or an order.  Every list is
tried from the top and the first entry that occurs anywhere counts.
-/

namespace CatalogSearch

namespace Phrase

open Pattern

/-! ## Prices -/

inductive PriceBound
  | atMost (value : Digits)
  | atLeast (value : Digits)
  | range (low high : Digits)
  deriving DecidableEq, Repr

def wordsThenAmount (words : List String) : Pattern Digits := do
  boundary
  leading words
  amount
where
  /-- Words, each followed by white space. -/
  leading : List String -> Pattern Unit
    | [] => pure ()
    | next :: rest => do
      word next
      someBlanks
      leading rest

def amountThenWords (words : List String) : Pattern Digits := do
  let value ← amount
  trailing words
  boundary
  pure value
where
  /-- Words, each after white space. -/
  trailing : List String -> Pattern Unit
    | [] => pure ()
    | next :: rest => do
      someBlanks
      word next
      trailing rest

def amountsAround (joint : String) : Pattern (Digits × Digits) := do
  let low ← amount
  someBlanks
  word joint
  someBlanks
  let high ← amount
  pure (low, high)

def amountsAroundHyphen : Pattern (Digits × Digits) := do
  let low ← amount
  blanks
  let _ ← charWhere (· == '-')
  blanks
  let high ← amount
  pure (low, high)

def betweenAmounts : Pattern (Digits × Digits) := do
  boundary
  word "between"
  someBlanks
  amountsAround "and"

def prices : List (Pattern PriceBound) := [
  PriceBound.atMost <$> wordsThenAmount ["under"],
  PriceBound.atMost <$> wordsThenAmount ["less", "than"],
  PriceBound.atMost <$> wordsThenAmount ["below"],
  PriceBound.atMost <$> amountThenWords ["or", "less"],
  PriceBound.atMost <$> amountThenWords ["and", "under"],
  PriceBound.atLeast <$> wordsThenAmount ["over"],
  PriceBound.atLeast <$> wordsThenAmount ["more", "than"],
  PriceBound.atLeast <$> wordsThenAmount ["above"],
  PriceBound.atLeast <$> amountThenWords ["or", "more"],
  PriceBound.atLeast <$> amountThenWords ["and", "up"],
  (fun (low, high) => PriceBound.range low high) <$> betweenAmounts,
  (fun (low, high) => PriceBound.range low high) <$> amountsAroundHyphen,
  (fun (low, high) => PriceBound.range low high) <$> amountsAround "to"]

/-! ## Brands and categories -/

/-- A name with its spellings, each a list of words; the first spelling that fits counts. -/
structure Name where
  spellings : List (List String)
  deriving DecidableEq, Repr

def Name.single (word : String) : Name :=
  ⟨[[word]]⟩

def Name.pattern (name : Name) : Pattern Unit :=
  anyOf (name.spellings.map boundedWords)

def brands : List Name :=
  ["sony", "samsung", "apple", "microsoft", "google", "nike", "adidas", "puma"].map .single ++
  [⟨[["under", "armour"]]⟩] ++
  ["dell", "hp", "lenovo", "asus", "lg", "panasonic", "sharp", "toshiba", "canon", "nikon",
    "fujifilm", "dyson", "whirlpool", "ge", "maytag", "kitchenaid", "lego", "hasbro", "mattel",
    "barbie"].map .single ++
  [⟨[["hot", "wheels"]]⟩, .single "nerf"]

def categories : List Name :=
  ["electronics", "tv", "television", "phone", "smartphone", "laptop", "computer", "tablet",
    "camera", "headphones", "speakers", "audio", "gaming", "games"].map .single ++
  [⟨[["video", "games"]]⟩, ⟨[["consoles"], ["console"]]⟩] ++
  ["playstation", "xbox", "nintendo", "clothing", "shoes", "apparel", "fashion", "home",
    "furniture", "kitchen", "appliances", "gardening", "tools", "sports", "fitness", "outdoor",
    "toys", "books", "beauty", "health", "food", "groceries", "pet", "automotive", "office",
    "school"].map .single

/-! ## Orders -/

def wordThenDollar (text : String) : Pattern Unit := do
  boundary
  word text
  someBlanks
  let _ ← charWhere (· == '$')
  pure ()

def sorts : List (Pattern Unit × SortIntent) := [
  (anyOf [boundedWords ["cheapest"], boundedWords ["lowest", "price"], wordThenDollar "under"],
    .priceLow),
  (anyOf [boundedWords ["most", "expensive"], boundedWords ["highest", "price"],
    wordThenDollar "over"], .priceHigh),
  (anyOf [boundedWords ["best", "rated"], boundedWords ["top", "rated"],
    boundedWords ["highest", "rated"]], .rating),
  (anyOf [boundedWords ["newest"], boundedWords ["latest"], boundedWords ["recent"]], .newest),
  (anyOf [boundedWords ["popular"], boundedWords ["trending"], boundedWords ["hot"]], .relevance)]

/-! ## Words that carry no meaning -/

def filler : Pattern Unit :=
  anyOf (["for", "in", "with", "looking", "want", "need"].map fun text => boundedWords [text])

def stopwords : List String := [
  "the", "a", "an", "and", "or", "but", "in", "on", "at", "to", "for", "of", "with", "by", "from",
  "up", "about", "into", "through", "during", "before", "after", "above", "below", "between",
  "among", "i", "want", "need", "looking", "search", "find", "show", "get", "buy", "cheap", "best",
  "good", "great", "nice", "new", "used", "like"]

end Phrase

end CatalogSearch
