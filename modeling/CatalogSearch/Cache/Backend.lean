import CatalogSearch.Cache.Memory
import CatalogSearch.Cache.Remote
import CatalogSearch.Json.Shown

/-!
# Where responses are kept

Responses are not kept, or in memory, or in a remote store.
-/

namespace CatalogSearch

inductive StoreError
  /-- Its time is too long for the clock. -/
  | time (cause : NumberError)
  /-- It has no bytes. -/
  | text (cause : EncodeError)
  deriving DecidableEq, Repr

def StoreError.message : StoreError -> String
  | time cause => cause.message
  | text cause => cause.message

inductive Backend
  | none
  | memory (cache : MemoryCache Json)
  | remote (store : RemoteStore)

namespace Backend

def name? : Backend -> Option String
  | none => Option.none
  | memory _ => some "memory"
  | remote _ => some "redis"

def keeps : Backend -> Bool
  | none => false
  | _ => true

def size : Backend -> Nat
  | none => 0
  | memory cache => cache.size
  | remote store => store.entries.length

def get (backend : Backend) (now : Binary64) (key : String) : Reported (Option Json × Backend) :=
  match backend with
  | none => .plain (Option.none, none)
  | memory cache =>
    let (found, after) := cache.get now key
    .plain (found, memory after)
  | remote store => (store.get key).map fun found => (found.map WideJson.shown, remote store)

/-- The place after a response was put under a key at a time, to be kept for so many seconds. -/
def set (backend : Backend) (now : Binary64) (key : String) (payload : Json) (ttl : Int) :
    Reported (Except StoreError Backend) :=
  match backend with
  | none => .plain (.ok none)
  | memory cache =>
    let span := (Json.binaryOfInteger ttl).mapError .time
    .plain (span.map fun span => memory (cache.set now key payload span))
  | remote store =>
    (store.set key payload.wide ttl).map fun stored => (stored.mapError .text).map remote

def clear (backend : Backend) : Reported Backend :=
  match backend with
  | none => .plain none
  | memory cache => .plain (memory cache.clear)
  | remote store => store.clear.map remote

/-- The place for a new service: a remote store that answers, or else memory. -/
def connect (store : RemoteStore) (address : String) (capacity : Int) : Reported Backend :=
  match store.outage with
  | some reason => ⟨memory (.empty capacity), [.remoteUnavailable address reason]⟩
  | Option.none => .plain (remote store)

end Backend

end CatalogSearch
