import CatalogSearch.Product.Row

/-!
# Warnings

What the library reports beside its answers.
-/

namespace CatalogSearch

inductive Warning
  /-- A catalog row is no object but of the named kind. -/
  | rowKind (position : Nat) (kind : String)
  /-- A catalog row gives no product. -/
  | rowFault (position : Nat) (error : RowError)
  /-- The catalog file stands for a file that was not fetched. -/
  | pointerFile (path : String)
  /-- The catalog file holds no list of products. -/
  | noProductList (path : String)
  /-- The catalog was not loaded when the program started. -/
  | notLoaded (reason : String)
  /-- An explicit order is not known. -/
  | unknownSortKey (key : String)
  /-- The approximate search failed. -/
  | matcherFailed (query : String)
  /-- A stored entry cannot be read. -/
  | undecodableEntry (key : String)
  /-- The remote store did not answer a read. -/
  | readFailed (key : String) (reason : String)
  /-- The remote store did not take a write. -/
  | writeFailed (key : String) (reason : String)
  /-- The remote store was not cleared. -/
  | clearFailed (reason : String)
  /-- The remote store is not there. -/
  | remoteUnavailable (address : String) (reason : String)
  deriving DecidableEq, Repr

namespace Warning

def message : Warning -> String
  | rowKind position kind =>
    s!"Skipping catalog row {position}: expected an object, got {kind}"
  | rowFault position error => s!"Skipping catalog row {position}: {error.message}"
  | pointerFile path =>
    s!"Catalog file {path} is a Git LFS pointer; real data not downloaded"
  | noProductList path => s!"Catalog file {path} does not contain a product list"
  | notLoaded reason => s!"Catalog not loaded on startup: {reason}"
  | unknownSortKey key => s!"Ignoring unknown sort key {key}"
  | matcherFailed query =>
    s!"Fuzzy matcher failed for q={query}; using exact matches only"
  | undecodableEntry key => s!"Dropping undecodable cache entry {key}"
  | readFailed key reason => s!"Redis read of {key} failed: {reason}"
  | writeFailed key reason => s!"Redis write of {key} failed: {reason}"
  | clearFailed reason => s!"Redis clear failed: {reason}"
  | remoteUnavailable address reason =>
    s!"Redis unavailable at {address} ({reason}); using in-memory cache"

end Warning

/-- A value with the warnings given on the way to it. -/
structure Reported (α : Type) where
  value : α
  warnings : List Warning
  deriving Repr

namespace Reported

def plain {α : Type} (value : α) : Reported α :=
  ⟨value, []⟩

def map {α β : Type} (f : α -> β) (reported : Reported α) : Reported β :=
  ⟨f reported.value, reported.warnings⟩

def after {α : Type} (warning : Warning) (reported : Reported α) : Reported α :=
  ⟨reported.value, warning :: reported.warnings⟩

@[simp] theorem map_value {α β : Type} (f : α -> β) (reported : Reported α) :
    (reported.map f).value = f reported.value := rfl

end Reported

end CatalogSearch
