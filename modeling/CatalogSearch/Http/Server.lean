import CatalogSearch.Http.Reply
import CatalogSearch.Http.Request

/-!
# The server

The server has one service, made when it is first needed: only then is the remote store asked
for.  A server that starts loads its catalog if its settings say so, and starts without one if
the catalog is missing.
-/

namespace CatalogSearch

namespace Http

structure ServerSetup where
  settings : Settings := {}
  /-- The greatest page size that a request may ask for. -/
  pageSizeLimit : Int := 100
  /-- The number of responses that are kept in memory. -/
  cacheCapacity : Int := 1024
  /-- The number of seconds that a response is kept. -/
  cacheTtl : Int := 300

structure Server where
  setup : ServerSetup
  files : Files := {}
  /-- The store as it is before the service is made. -/
  store : RemoteStore := {}
  service : Option Service := none

namespace Server

def serviceSetup (server : Server) : ServiceSetup := {
  settings := server.setup.settings
  matcher := some (Fuzzy.matcher server.setup.settings.fuzzyThreshold)
  cacheTtl := server.setup.cacheTtl }

def newService (server : Server) : Reported Service :=
  let settings := server.setup.settings
  if settings.cacheEnabled then
    (Backend.connect server.store settings.redisAddress server.setup.cacheCapacity).map
      fun backend => ⟨⟨[], 0⟩, backend⟩
  else .plain ⟨⟨[], 0⟩, .none⟩

def theService (server : Server) : Reported Service :=
  match server.service with
  | some service => .plain service
  | none => server.newService

def load (server : Server) (fetched : Except FetchError ByteArray) :
    Reported (Except LoadError Nat × Server) :=
  let service := server.theService
  let settings := server.setup.settings
  let (loaded, files) :=
    service.value.reload fetched server.files settings.catalogPath settings.catalogSourceUrl
  ⟨(loaded.value.1, { server with files := files, service := some loaded.value.2 }),
    service.warnings ++ loaded.warnings⟩

def start (server : Server) (fetched : Except FetchError ByteArray) :
    Reported (Except LoadError Server) :=
  if server.setup.settings.loadOnStartup then
    let loaded := server.load fetched
    match loaded.value.1 with
    | .ok _ => ⟨.ok loaded.value.2, loaded.warnings⟩
    | .error (.missing path) =>
      ⟨.ok loaded.value.2, loaded.warnings ++ [.notLoaded (LoadError.missing path).message]⟩
    | .error error => ⟨.error error, loaded.warnings⟩
  else .plain (.ok server)

/-! ## Endpoints -/

def health (server : Server) : Reported (Reply × Server) :=
  server.theService.map fun service =>
    (.served (.object [
      ("catalog", .string server.setup.settings.catalogPath),
      ("products", .int service.snapshot.catalog.length),
      ("cache", .ofText? service.backend.name?)]),
      { server with service := some service })

def boundsCross (request : SearchRequest) : Bool :=
  match request.minPrice, request.maxPrice with
  | some (.binary low), some (.binary high) => high.lt low
  | _, _ => false

def answer (server : Server) (now elapsed : Binary64) (request : SearchRequest) :
    Reported (Reply × Server) :=
  let service := server.theService
  let outcome := service.value.search server.serviceSetup now elapsed request
  let reply := match outcome.value.1 with
    | .ok answered => Reply.ofResponse answered.response
    | .error _ => .internalError
  ⟨(reply, { server with service := some outcome.value.2 }), service.warnings ++ outcome.warnings⟩

def search (server : Server) (now elapsed : Binary64) (request : Request) :
    Reported (Reply × Server) :=
  match request.search server.setup.pageSizeLimit with
  | .error errors => .plain (.invalidParameters errors, server)
  | .ok search =>
    if boundsCross search then
      .plain (.refused 422 "min_price must not exceed max_price", server)
    else server.answer now elapsed search

def reload (server : Server) (fetched : Except FetchError ByteArray) :
    Reported (Reply × Server) :=
  (server.load fetched).map fun (loaded, server) =>
    match loaded with
    | .ok count => (.served (.object [("indexed", .int count)]), server)
    | .error (.missing path) => (.refused 503 (LoadError.missing path).message, server)
    | .error (.unreachable url path) =>
      (.refused 503 (LoadError.unreachable url path).message, server)
    | .error _ => (.internalError, server)

structure Surroundings where
  now : Binary64 := .zero
  elapsed : Binary64 := .zero
  fetched : Except FetchError ByteArray := .error .unreachable

def handle (server : Server) (around : Surroundings) (request : Request) :
    Reported (Reply × Server) :=
  match Endpoint.ofPath? request.path with
  | none => .plain (.notFound, server)
  | some endpoint =>
    if request.method != endpoint.method then
      .plain (.methodNotAllowed request.method, server)
    else match endpoint with
      | .health => server.health
      | .search => server.search around.now around.elapsed request
      | .reload => server.reload around.fetched

end Server

end Http

end CatalogSearch
