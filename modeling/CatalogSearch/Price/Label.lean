import CatalogSearch.Json.Shown
import CatalogSearch.Text.Digit

/-!
# Prices as catalogs give them

A catalog gives a price as a number or as text such as `$1,299.99`.  What is not a price counts
as a missing price and never as zero.
-/

namespace CatalogSearch

open Text

namespace PriceLabel

def readPlain (text : List Char) : Option Binary64 :=
  let whole := text.takeWhile isDigit
  if whole.isEmpty then none
  else match text.dropWhile isDigit with
    | [] => some (.ofDecimal false (digitsValue whole) 0)
    | '.' :: fraction =>
      if fraction.isEmpty || !fraction.all isDigit then none
      else some (.ofDecimal false (digitsValue (whole ++ fraction)) (-fraction.length))
    | _ => none

def withoutSign : List Char -> List Char
  | '$' :: rest => stripStart rest
  | text => stripStart text

/-- The price that a text gives; commas between digits count for nothing. -/
def readText (text : List Char) : Option Binary64 :=
  readPlain (withoutSign (strip (text.filter (· != ','))))

def read : Json -> Except NumberError (Option Binary64)
  | .int value => (Json.binaryOfInteger value).map some
  | .float value => .ok (if value.isFinite then some value else none)
  | .string text => .ok (readText text.toList)
  | _ => .ok none

end PriceLabel

end CatalogSearch
