import CatalogSearch.Price.Predicate
import CatalogSearch.Query.Numeral
import Mathlib.Data.List.Forall2

/-!
# The grammar of prices

Which parts of a text are prices, said without a search.  A place of a text knows what stands
before it and what follows; each production relates the place where a part begins to the place
where it ends, and may be read in more than one way.

A price in a text is the leftmost one of the form that counts most: a marked price before a
bare range, a bare range before a bare comparison.
-/

namespace CatalogSearch

open Text

/-- A place of a text: what stands before it and what follows. -/
@[ext] structure Place where
  before : List Char
  rest : List Char

namespace Place

def text (place : Place) : List Char :=
  place.before ++ place.rest

structure Reads (first : Place) (part : List Char) (last : Place) : Prop where
  before : last.before = first.before ++ part
  rest : first.rest = part ++ last.rest

/-!
## Blanks, dollar signs and comparison signs
-/

def ReadsBlanks (first last : Place) : Prop :=
  exists part : List Char, first.Reads part last ∧ forall c : Char, c ∈ part -> isBlank c = true

def ReadsDollar (first last : Place) : Prop :=
  last = first ∨ first.Reads ['$'] last

inductive ReadsGap (first last : Place) : Prop where
  | intro {a b : Place} :
      first.ReadsBlanks a -> a.ReadsDollar b -> b.ReadsBlanks last -> ReadsGap first last

def ReadsMark (first last : Place) : Prop :=
  exists part : List Char, first.Reads part last ∧
    List.Forall₂ (fun letter c => Pattern.sameLetter letter c = true) "price:".toList part

def ReadsSign (first : Place) : Option Comparison -> Place -> Prop
  | none, last => last = first
  | some op, last => first.Reads op.sign last

/-!
## Numerals
-/

def pointed : List Char -> List Char
  | [] => []
  | fraction => '.' :: fraction

/-- A run of digits, perhaps with a point and one or two decimals, that touches no word character
and no point on its left and is continued by no word character and no decimals on its right. -/
structure ReadsNumeral (first : Place) (digits : Pattern.Digits) (last : Place) : Prop where
  reads : first.Reads (digits.whole ++ pointed digits.fraction) last
  whole_ne_nil : digits.whole ≠ []
  whole : forall c : Char, c ∈ digits.whole -> isDigit c = true
  fraction : forall c : Char, c ∈ digits.fraction -> isDigit c = true
  fraction_length : digits.fraction.length ≤ 2
  fresh : forall c : Char, first.before.getLast? = some c -> isWordChar c = false ∧ c ≠ '.'
  no_word : forall c : Char, last.rest.head? = some c -> isWordChar c = false
  no_decimals : forall (c : Char) (rest : List Char), last.rest = '.' :: c :: rest ->
    isDigit c = false

/-!
## The forms of a price
-/

inductive ReadsMarked (first : Place) (sign : Option Comparison) (low : Pattern.Digits)
    (last : Place) : Prop where
  | intro {a b c d e : Place} :
      first.ReadsMark a -> a.ReadsBlanks b -> b.ReadsSign sign c -> c.ReadsBlanks d ->
      d.ReadsDollar e -> e.ReadsNumeral low last -> ReadsMarked first sign low last

inductive ReadsSecond (first : Place) (high : Pattern.Digits) (last : Place) : Prop where
  | intro {a b c d : Place} :
      first.ReadsBlanks a -> a.Reads ['-'] b -> b.ReadsBlanks c -> c.ReadsDollar d ->
      d.ReadsNumeral high last -> ReadsSecond first high last

/-- A marked price: with a second numeral a range, otherwise a comparison, which is an equality
without a sign. -/
inductive MarkedPrice (first : Place) : PricePredicate -> Prop where
  | range {sign : Option Comparison} {low high : Pattern.Digits} {a b : Place} :
      first.ReadsMarked sign low a -> a.ReadsSecond high b ->
      MarkedPrice first (.between low.value high.value)
  | comparison {sign : Option Comparison} {low : Pattern.Digits} {a : Place} :
      first.ReadsMarked sign low a ->
      (forall (high : Pattern.Digits) (b : Place), ¬ a.ReadsSecond high b) ->
      MarkedPrice first (.compare (sign.getD .equal) low.value)

inductive BareRange (first : Place) : PricePredicate -> Prop where
  | intro {low high : Pattern.Digits} {a b c d e : Place} :
      first.ReadsNumeral low a -> a.ReadsBlanks b -> b.Reads ['-'] c -> c.ReadsGap d ->
      d.ReadsNumeral high e -> BareRange first (.between low.value high.value)

inductive BareComparison (first : Place) : PricePredicate -> Prop where
  | intro {op : Comparison} {value : Pattern.Digits} {a b c : Place} :
      first.Reads op.sign a -> a.ReadsGap b -> b.ReadsNumeral value c ->
      BareComparison first (.compare op value.value)

end Place

/-!
## The price in a text
-/

def Occurs (form : Place -> PricePredicate -> Prop) (text : List Char) : Prop :=
  exists (place : Place) (condition : PricePredicate), place.text = text ∧ form place condition

structure Leftmost (form : Place -> PricePredicate -> Prop) (text : List Char)
    (condition : PricePredicate) (place : Place) : Prop where
  inText : place.text = text
  stands : form place condition
  first : forall (other : Place) (condition' : PricePredicate), other.text = text ->
    other.before.length < place.before.length -> ¬ form other condition'

/-- The condition that the prices in a text put: that of the leftmost occurrence of the form that
counts most. -/
inductive PriceCondition (text : List Char) (condition : PricePredicate) : Prop where
  | marked {place : Place} :
      Leftmost Place.MarkedPrice text condition place -> PriceCondition text condition
  | range {place : Place} :
      ¬ Occurs Place.MarkedPrice text -> Leftmost Place.BareRange text condition place ->
      PriceCondition text condition
  | comparison {place : Place} :
      ¬ Occurs Place.MarkedPrice text -> ¬ Occurs Place.BareRange text ->
      Leftmost Place.BareComparison text condition place -> PriceCondition text condition

end CatalogSearch
