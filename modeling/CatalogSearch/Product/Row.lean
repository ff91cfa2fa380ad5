import CatalogSearch.Price.Label
import CatalogSearch.Product.Basic

/-!
# Products from rows

A catalog row is an object whose members may have several names and kinds.  A row gives a
product if it has an id; every other member may be missing.
-/

namespace CatalogSearch

open Text

inductive RowError
  /-- The row is no object. -/
  | notAnObject
  /-- There is no id. -/
  | missingId
  /-- The id is neither a text nor an integer. -/
  | idKind
  /-- The id is blank. -/
  | emptyId
  /-- An integer that is to be shown as text has too many digits. -/
  | longInteger
  /-- The price is beyond the numbers that prices are kept as. -/
  | price (cause : NumberError)
  deriving DecidableEq, Repr

namespace RowError

def message : RowError -> String
  | notAnObject => "Input should be a valid dictionary or instance of ProductRecord"
  | missingId => "Field required"
  | idKind => "Value error, id must be a string or an integer"
  | emptyId => "Value error, id must not be empty"
  | longInteger =>
    s!"Value error, Exceeds the limit ({digitLimit} digits) for integer string conversion; "
      ++ "use sys.set_int_max_str_digits() to increase the limit"
  | price cause => cause.message

end RowError

namespace Product

def member? (row : List (String × Json)) (names : List String) : Option Json :=
  names.findSome? fun name => row.lookup name

def readShown (value : Json) : Except RowError (List Char) :=
  if value.isShowable then .ok value.shown else .error .longInteger

def readId : Option Json -> Except RowError String
  | none => .error .missingId
  | some (.string text) => nonBlank text.toList
  | some (.int value) => readShown (.int value) >>= nonBlank
  | some _ => .error .idKind
where
  /-- A text without white space around it, if anything is left. -/
  nonBlank (text : List Char) : Except RowError String :=
    if (strip text).isEmpty then .error .emptyId else .ok (String.ofList (strip text))

def readText : Option Json -> Except RowError String
  | none => .ok ""
  | some .null => .ok ""
  | some value => String.ofList <$> readShown value

def labelOf (text : List Char) : Option String :=
  if (strip text).isEmpty then none else some (String.ofList (strip text))

def readLabel : Option Json -> Except RowError (Option String)
  | none => .ok none
  | some .null => .ok none
  | some value => labelOf <$> readShown value

def readPrice : Option Json -> Except RowError (Option Binary64)
  | none => .ok none
  | some value => (PriceLabel.read value).mapError .price

/-- The product of a row.  A price beyond the numbers is reported before every other fault, and of
the others the first in the order of the members. -/
def ofMembers (row : List (String × Json)) : Except RowError Product := do
  let price ← readPrice (member? row ["price"])
  let id ← readId (member? row ["id", "itemId", "externalId"])
  let name ← readText (member? row ["name", "title"])
  let description ← readText (member? row ["description"])
  let brand ← readLabel (member? row ["brand"])
  let category ← readLabel (member? row ["category"])
  let url ← readLabel (member? row ["url", "productUrl"])
  let image ← readLabel (member? row ["image", "imageUrl"])
  pure { id, name, description, price, brand, category, url, image }

def ofRow : Json -> Except RowError Product
  | .object members => ofMembers members
  | _ => .error .notAnObject

end Product

end CatalogSearch
