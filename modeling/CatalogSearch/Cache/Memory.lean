import CatalogSearch.Number.Binary64

/-!
# A cache in memory

The cache holds at least one entry and at most as many as its capacity.  Its entries are in the
order of their last use, and the one used longest ago makes room for a new one.  An entry is
given out only before it expires; one that is found expired is dropped.
-/

namespace CatalogSearch

structure CacheEntry (α : Type) where
  key : String
  expires : Binary64
  payload : α
  deriving Repr

/-- A cache, the entry used longest ago first. -/
structure MemoryCache (α : Type) where
  capacity : Nat
  entries : List (CacheEntry α)
  deriving Repr

namespace MemoryCache

variable {α : Type}

/-- A cache without entries, for at least one. -/
def empty (capacity : Int) : MemoryCache α :=
  ⟨max capacity.toNat 1, []⟩

def size (cache : MemoryCache α) : Nat :=
  cache.entries.length

def find? (cache : MemoryCache α) (key : String) : Option (CacheEntry α) :=
  cache.entries.find? fun entry => entry.key == key

def others (cache : MemoryCache α) (key : String) : List (CacheEntry α) :=
  cache.entries.filter fun entry => entry.key != key

def get (cache : MemoryCache α) (now : Binary64) (key : String) : Option α × MemoryCache α :=
  match cache.find? key with
  | none => (none, cache)
  | some entry =>
    if entry.expires.le now then (none, { cache with entries := cache.others key })
    else (some entry.payload, { cache with entries := cache.others key ++ [entry] })

def fitting (capacity : Nat) (entries : List (CacheEntry α)) : List (CacheEntry α) :=
  entries.drop (entries.length - capacity)

def set (cache : MemoryCache α) (now : Binary64) (key : String) (payload : α) (ttl : Binary64) :
    MemoryCache α :=
  { cache with
    entries := fitting cache.capacity (cache.others key ++ [⟨key, now + ttl, payload⟩]) }

def clear (cache : MemoryCache α) : MemoryCache α :=
  { cache with entries := [] }

end MemoryCache

end CatalogSearch
