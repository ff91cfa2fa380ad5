import CatalogSearch.Query.Numeral
import CatalogSearch.Query.Reading
import CatalogSearch.Text.LowerCase
import CatalogSearch.Text.Occurrence

/-!
# Expressions in a query

The strict forms of a query: an id after `id:`, a comparison or a range after `price:`, a bare
range and a bare comparison.  The id is looked for first and cut out, so that the digits of an
id are never a range.  Each form counts at its leftmost place only; a price form wins over a
bare range and a bare range over a bare comparison, but all three are cut out.

What a form covered is cut out by blanking the first occurrence of the covered text.
-/

namespace CatalogSearch

open Text

namespace Pattern

/-! ## Ids -/

def isIdChar (c : Char) : Bool :=
  c.isAlphanum || c == '-' || c.toNat == 0x17F || c.toNat == 0x212A || c.toNat == 0x130 ||
    c.toNat == 0x131

def markedId : Pattern (List Char) := do
  word "id:"
  blanks
  someWhere isIdChar

/-- A marked id at the start of the text or after white space, which it covers. -/
def idExpression : Pattern (List Char) :=
  orElse (do atStart; markedId) (do let _ ← charWhere isBlank; markedId)

/-! ## Prices -/

/-- A comparison sign; the longer of two that fit counts. -/
def comparisonSign : Pattern Comparison :=
  anyOf [
    do word "<="; pure .atMost,
    do word ">="; pure .atLeast,
    do word "<"; pure .less,
    do word ">"; pure .greater,
    do word "="; pure .equal]

def rangeEnd : Pattern Digits := do
  let _ ← charWhere (· == '-')
  blanks
  perhapsDollar
  freeNumeral

/-- A price after its mark: a range if there is a second numeral, otherwise a comparison, which is
an equality without a sign. -/
def priceExpression : Pattern PricePredicate := do
  word "price:"
  blanks
  let sign ← perhaps comparisonSign
  blanks
  perhapsDollar
  let low ← freeNumeral
  blanks
  let high ← perhaps rangeEnd
  match high with
  | some high => pure (.between low.value high.value)
  | none => pure (.compare (sign.getD .equal) low.value)

def bareRange : Pattern PricePredicate := do
  perhapsDollar
  blanks
  let low ← freeNumeral
  blanks
  let _ ← charWhere (· == '-')
  blanks
  perhapsDollar
  blanks
  let high ← freeNumeral
  pure (.between low.value high.value)

def bareComparison : Pattern PricePredicate := do
  let sign ← comparisonSign
  blanks
  perhapsDollar
  blanks
  let value ← freeNumeral
  pure (.compare sign value.value)

end Pattern

namespace Reading

def cut {α : Type} (text : List Char) : Option (Pattern.Match α) -> List Char
  | some found => blankFirst found.text text
  | none => text

/-- The price forms of a text, in the order in which they count. -/
def priceForms (text : List Char) : List (Option (Pattern.Match PricePredicate)) :=
  [Pattern.priceExpression.search text, Pattern.bareRange.search text,
    Pattern.bareComparison.search text]

def splitId (text : List Char) : Option String × List Char :=
  let found := Pattern.idExpression.search text
  (found.map fun id => String.ofList id.value, cut text found)

def ofExpressions (query : List Char) : Reading :=
  let (id, remainder) := splitId (strip query)
  let forms := priceForms remainder
  let residual := lower (collapse (forms.foldl cut remainder))
  {
    criteria := {
      id := id
      price := (forms.findSome? fun form => form).map (·.value)
      terms := (words residual).map String.ofList
    }
    residual := residual
  }

end Reading

end CatalogSearch
