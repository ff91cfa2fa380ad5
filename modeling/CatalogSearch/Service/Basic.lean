import CatalogSearch.Cache.Backend
import CatalogSearch.Catalog.Load
import CatalogSearch.Service.Response
import CatalogSearch.Service.Settings

/-!
# The search service

A service holds a catalog and its version and answers searches against them, keeping responses.
The key of a response names the version, so that no response outlives its catalog.  A search
reads the catalog and the version together, looks its key up, and stores its response under the
same key; the three steps are apart, so that others may come between them.
-/

namespace CatalogSearch

/-- A request for a search.  Order, page and page size are as the caller gave them. -/
structure SearchRequest where
  query : String := ""
  sort : Json := .null
  page : Json := .int 1
  pageSize : Json := .null
  brand : Option String := none
  category : Option String := none
  minPrice : Option Number := none
  maxPrice : Option Number := none
  deriving Inhabited

structure ServiceSetup where
  settings : Settings := {}
  matcher : Option Matcher := none
  cacheTtl : Int := 300

structure Snapshot where
  catalog : Catalog
  version : Nat
  deriving Repr

structure Service where
  snapshot : Snapshot
  backend : Backend

inductive SearchError
  /-- Its page or page size is no number. -/
  | number (cause : NumberError)
  /-- Its response is not kept. -/
  | store (cause : StoreError)
  deriving DecidableEq, Repr

def SearchError.message : SearchError -> String
  | number cause => cause.message
  | store cause => cause.message

namespace SearchRequest

def refinement (request : SearchRequest) : Refinement :=
  ⟨request.brand, request.category, request.minPrice, request.maxPrice⟩

def exceedsLimit (limit : Int) : Json -> Except NumberError Bool
  | .bool value => .ok (decide (limit < if value then 1 else 0))
  | .int value => .ok (decide (limit < value))
  | .float value => .ok (Number.gtInteger value limit)
  | _ => .error .wrongKind

/-- The page size in effect: the one asked for or else the usual one, but at most the greatest. -/
def effectiveSize (settings : Settings) (request : SearchRequest) : Except NumberError Json := do
  let size := if request.pageSize.isPresent then request.pageSize else .int settings.pageSize
  let tooLarge ← exceedsLimit settings.maxPageSize size
  pure (if tooLarge then .int settings.maxPageSize else size)

def boundPart : Option Number -> Json
  | none => .null
  | some bound => .string (String.ofList bound.text)

/-- Everything that shapes the response to a request. -/
def keyParts (version : Nat) (request : SearchRequest) (sortKey : Option SortKey) (size : Json) :
    List Json := [
  .int version,
  .string request.query,
  .string ((sortKey.map SortKey.text).getD ""),
  request.page,
  size,
  .string (request.brand.getD ""),
  .string (request.category.getD ""),
  boundPart request.minPrice,
  boundPart request.maxPrice]

end SearchRequest

namespace Service

open SearchRequest

def answer (setup : ServiceSetup) (catalog : Catalog) (request : SearchRequest)
    (sortKey : Option SortKey) (size : Json) (elapsed : Binary64) :
    Reported (Except NumberError Json) :=
  let results := Results.ofQuery catalog request.query.toList {
    sortKey := sortKey
    applySortIntent := setup.settings.applySortIntent
    matcher := setup.matcher
    refinement := request.refinement
  }
  results.map fun results => do
    let page ← request.page.toInteger
    let size ← size.toInteger
    pure (results.response request.query (results.page page size) elapsed)

/-! ## The steps of a search -/

/-- A search that has read its snapshot.  Its evaluation will be measured to take `elapsed`
milliseconds, if it comes to that. -/
structure Pending where
  snapshot : Snapshot
  request : SearchRequest
  sortKey : Option SortKey
  size : Json
  key : String
  elapsed : Binary64

def start (setup : ServiceSetup) (snapshot : Snapshot) (request : SearchRequest)
    (elapsed : Binary64) : Reported (Except NumberError Pending) :=
  (SortKey.request request.sort).map fun sortKey =>
    (effectiveSize setup.settings request).map fun size => {
      snapshot := snapshot
      request := request
      sortKey := sortKey
      size := size
      key := Cache.key (keyParts snapshot.version request sortKey size)
      elapsed := elapsed }

def Pending.answer (setup : ServiceSetup) (pending : Pending) :
    Reported (Except NumberError Json) :=
  Service.answer setup pending.snapshot.catalog pending.request pending.sortKey pending.size
    pending.elapsed

/-! ## Operations -/

structure Answered where
  response : Json
  key : String
  hit : Bool

def storeAnswer (setup : ServiceSetup) (now : Binary64) (pending : Pending) (backend : Backend) :
    Reported (Except SearchError Answered × Backend) :=
  let outcome := pending.answer setup
  match outcome.value with
  | .error error => ⟨(.error (.number error), backend), outcome.warnings⟩
  | .ok response =>
    let stored := backend.set now pending.key response setup.cacheTtl
    let warnings := outcome.warnings ++ stored.warnings
    match stored.value with
    | .error error => ⟨(.error (.store error), backend), warnings⟩
    | .ok after => ⟨(.ok ⟨response, pending.key, false⟩, after), warnings⟩

def lookUp (setup : ServiceSetup) (now : Binary64) (pending : Pending) (backend : Backend) :
    Reported (Except SearchError Answered × Backend) :=
  let found := backend.get now pending.key
  match found.value with
  | (some response, backend) => ⟨(.ok ⟨response, pending.key, true⟩, backend), found.warnings⟩
  | (none, backend) =>
    let outcome := storeAnswer setup now pending backend
    ⟨outcome.value, found.warnings ++ outcome.warnings⟩

def search (setup : ServiceSetup) (now elapsed : Binary64) (service : Service)
    (request : SearchRequest) : Reported (Except SearchError Answered × Service) :=
  let started := start setup service.snapshot request elapsed
  match started.value with
  | .error error => ⟨(.error (.number error), service), started.warnings⟩
  | .ok pending =>
    let outcome := lookUp setup now pending service.backend
    ⟨(outcome.value.1, { service with backend := outcome.value.2 }),
      started.warnings ++ outcome.warnings⟩

/-- The service with another catalog: the version grows and kept responses are removed. -/
def replaceCatalog (service : Service) (catalog : Catalog) : Reported Service :=
  service.backend.clear.map fun backend =>
    ⟨⟨catalog, service.snapshot.version + 1⟩, backend⟩

/-- The service with its catalog loaded again, or as it was if that fails; and the files.  A missing
catalog file is made of what was fetched. -/
def reload (service : Service) (fetched : Except FetchError ByteArray) (files : Files)
    (path url : String) : Reported (Except LoadError Nat × Service) × Files :=
  let (loaded, files) := Catalog.loadFetched fetched files path url
  match loaded.value with
  | .error error => (⟨(.error error, service), loaded.warnings⟩, files)
  | .ok catalog =>
    let replaced := service.replaceCatalog catalog
    (⟨(.ok catalog.length, replaced.value), loaded.warnings ++ replaced.warnings⟩, files)

end Service

end CatalogSearch
