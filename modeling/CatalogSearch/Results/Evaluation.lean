import CatalogSearch.Fuzzy.Matcher
import CatalogSearch.Query.Interpretation
import CatalogSearch.Results.Facets
import CatalogSearch.Results.Merge
import CatalogSearch.Results.Order
import CatalogSearch.Results.Page
import CatalogSearch.Results.Refinement

/-!
# Evaluation of a query

A catalog is narrowed, the products that meet the query are ranked, and products that a matcher
proposes follow them if they meet the conditions on id and price.  An order that the caller or
the query asks for replaces the ranking.  Pages and facets are views of the whole list of
results.
-/

namespace CatalogSearch

open Text

structure SearchOptions where
  sortKey : Option SortKey := none
  applySortIntent : Bool := true
  matcher : Option Matcher := none
  refinement : Refinement := {}

structure Results where
  reading : Reading
  products : List Product
  deriving Repr

namespace Results

def page (results : Results) (page size : Int) : Page :=
  Page.ofList results.products page size

def facets (results : Results) : Facets :=
  Facets.ofList results.products

/-- The text that a matcher is asked for, if it is asked at all: a search by id is exact. -/
def matcherText? (reading : Reading) : Option (List Char) :=
  if reading.criteria.id.isSome || reading.approximateText.isEmpty then none
  else some reading.approximateText

/-- The products that a matcher proposes and the conditions on id and price admit. -/
def proposed (matcher : Option Matcher) (reading : Reading) (catalog : Catalog) :
    Reported (List Product) :=
  match matcher, matcherText? reading with
  | some matcher, some text =>
    match matcher text catalog with
    | .candidates products =>
      ⟨(products.map (·.1)).filter reading.criteria.admits, []⟩
    | .nothing => ⟨[], []⟩
    | .failed => ⟨[], [.matcherFailed (String.ofList (quoted text))]⟩
  | _, _ => ⟨[], []⟩

/-- The order in effect: the explicit one, or else the one that the query asks for. -/
def orderInEffect (sortKey : Option SortKey) (applySortIntent : Bool) (reading : Reading) :
    Option SortKey :=
  sortKey.or (if applySortIntent then reading.criteria.sort.bind SortIntent.sortKey? else none)

/-- The exact matches followed by the proposed products, one of each id. -/
def merged (matcher : Option Matcher) (reading : Reading) (catalog : Catalog) :
    Reported (List Product) :=
  (proposed matcher reading catalog).map fun proposed =>
    Product.merge [catalog.ranked reading.criteria, proposed]

def ofQuery (catalog : Catalog) (query : List Char) (options : SearchOptions) : Reported Results :=
  let reading := Reading.ofQuery query
  let narrowed := options.refinement.narrow catalog
  (merged options.matcher reading narrowed).map fun products =>
    ⟨reading, SortKey.sort (orderInEffect options.sortKey options.applySortIntent reading) products⟩

def ofRequest (catalog : Catalog) (query : List Char) (sort : Json) (options : SearchOptions) :
    Reported Results :=
  let key := SortKey.request sort
  let results := ofQuery catalog query { options with sortKey := key.value }
  ⟨results.value, results.warnings ++ key.warnings⟩

end Results

end CatalogSearch
