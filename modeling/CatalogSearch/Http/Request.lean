import CatalogSearch.Http.Parameter
import CatalogSearch.Service.Basic

/-!
# Requests

A request names a method, a path and query parameters.  Each endpoint has one path and one
method; the parameters of a search are checked together, so that an answer can name every one
at fault.
-/

namespace CatalogSearch

namespace Http

structure Request where
  method : String := "GET"
  path : String
  parameters : List (String × String) := []
  deriving Repr

inductive Endpoint
  | health
  | search
  | reload
  deriving DecidableEq, Repr

namespace Endpoint

def all : List Endpoint := [health, search, reload]

def path : Endpoint -> String
  | health => "/health"
  | search => "/search"
  | reload => "/reload"

def method : Endpoint -> String
  | health => "GET"
  | search => "GET"
  | reload => "POST"

def withoutEndSlashes (path : String) : String :=
  String.ofList (path.toList.reverse.dropWhile (· == '/')).reverse

def ofPath? (path : String) : Option Endpoint :=
  all.find? fun endpoint => endpoint.path == withoutEndSlashes path

end Endpoint

namespace Request

/-- The parameter with a name; of several the last one counts. -/
def parameter? (request : Request) (name : String) : Option String :=
  request.parameters.reverse.lookup name

def faultsOf {α : Type} (name : String) : Except ParameterFault α -> List ParameterError
  | .ok _ => []
  | .error fault => [⟨name, fault⟩]

def checked {α : Type} (request : Request) (name : String)
    (read : String -> Except ParameterFault α) : Except ParameterFault (Option α) :=
  match request.parameter? name with
  | none => .ok none
  | some text => (read text).map some

def readOrder (text : String) : Except ParameterFault SortKey :=
  match SortKey.ofName? text with
  | some key => .ok key
  | none => .error .unknownChoice

def readCount (limit : Option Int) (text : String) : Except ParameterFault Int := do
  Parameter.between 1 limit (← Parameter.integer text)

def readPrice (text : String) : Except ParameterFault Binary64 := do
  Parameter.notNegative (← Parameter.number text)

/-- The search that a request asks for, with pages up to a size, or every parameter at fault. -/
def search (sizeLimit : Int) (request : Request) : Except (List ParameterError) SearchRequest :=
  let order := request.checked "sort" readOrder
  let page := request.checked "page" (readCount none)
  let pageSize := request.checked "page_size" (readCount (some sizeLimit))
  let minPrice := request.checked "min_price" readPrice
  let maxPrice := request.checked "max_price" readPrice
  match order, page, pageSize, minPrice, maxPrice with
  | .ok order, .ok page, .ok pageSize, .ok minPrice, .ok maxPrice => .ok {
      query := (request.parameter? "q").getD ""
      sort := .ofText? (order.map SortKey.text)
      page := .int (page.getD 1)
      pageSize := (pageSize.map .int).getD .null
      brand := request.parameter? "brand"
      category := request.parameter? "category"
      minPrice := minPrice.map .binary
      maxPrice := maxPrice.map .binary }
  | order, page, pageSize, minPrice, maxPrice =>
    .error (faultsOf "sort" order ++ faultsOf "page" page ++ faultsOf "page_size" pageSize ++
      faultsOf "min_price" minPrice ++ faultsOf "max_price" maxPrice)

end Request

end Http

end CatalogSearch
