import CatalogSearch.Query.Canonical
import CatalogSearch.Results.Evaluation

/-!
# Responses

The answer to a search as an object: a page of products, the counts, what was read in the query
and the facets of all results.
-/

namespace CatalogSearch

namespace Reading

def toJson (reading : Reading) : Json :=
  .object [
    ("searchTerm", .string (String.ofList reading.residual)),
    ("idMatch", .ofText? reading.criteria.id),
    ("price", .ofText? (reading.criteria.price.map fun price => String.ofList price.describe)),
    ("keywords", .array (reading.criteria.terms.map .string)),
    ("brand", .ofText? reading.criteria.brand),
    ("category", .ofText? reading.criteria.category),
    ("sortBy", .ofText? (reading.criteria.sort.map SortIntent.name)),
    ("confidence", .float reading.confidence),
    ("formatted", .string (String.ofList reading.canonical))]

end Reading

namespace Facets

def priceRange (facets : Facets) : Json :=
  match facets.minPrice, facets.maxPrice with
  | some low, some high => .object [("min", .float low), ("max", .float high)]
  | _, _ => .null

def toJson (facets : Facets) : Json :=
  .object [
    ("brands", .array (facets.brands.map .string)),
    ("categories", .array (facets.categories.map .string)),
    ("priceRange", facets.priceRange)]

end Facets

namespace Results

def response (results : Results) (query : String) (page : Page) (elapsed : Binary64) : Json :=
  .object [
    ("query", .string query),
    ("items", .array (page.items.map Product.toJson)),
    ("totalResults", .int page.total),
    ("currentPage", .int page.current),
    ("pageSize", .int page.size),
    ("hasMore", .bool page.hasMore),
    ("parsed", results.reading.toJson),
    ("facets", results.facets.toJson),
    ("took_ms", .float elapsed)]

end Results

end CatalogSearch
