import CatalogSearch.Cache.Key
import CatalogSearch.Catalog.Warning
import CatalogSearch.Json.Reader
import CatalogSearch.Text.Encoding
import CatalogSearch.Text.Occurrence

/-!
# A cache in a remote store

The store maps keys to bytes and is shared with other services.  While it is out of reach,
nothing is read or changed and every request is reported.  Responses are stored as written
objects; bytes that are no object are no response.
-/

namespace CatalogSearch

structure StoredBytes where
  bytes : ByteArray
  ttl : Option Int

/-- A store of bytes under keys, and the reason why it is out of reach while it is. -/
structure RemoteStore where
  entries : List (String × StoredBytes) := []
  outage : Option String := none

namespace RemoteStore

def bytes? (store : RemoteStore) (key : String) : Option ByteArray :=
  (store.entries.lookup key).map (·.bytes)

def put (store : RemoteStore) (key : String) (value : StoredBytes) : RemoteStore :=
  { store with entries := store.entries.filter (fun entry => entry.1 != key) ++ [(key, value)] }

def withoutOwn (store : RemoteStore) : RemoteStore :=
  { store with
    entries := store.entries.filter fun entry =>
      !Text.startsWith Cache.keyMark.toList entry.1.toList }

def decode (bytes : ByteArray) : Option WideJson :=
  (Text.decodeDocument bytes).bind fun text => (WideJson.read text).toOption

def decodeResponse (key : String) (bytes : ByteArray) : Reported (Option WideJson) :=
  match decode bytes with
  | none => ⟨none, [.undecodableEntry key]⟩
  | some (.object members) => .plain (some (.object members))
  | some _ => .plain none

def get (store : RemoteStore) (key : String) : Reported (Option WideJson) :=
  match store.outage with
  | some reason => ⟨none, [.readFailed key reason]⟩
  | none =>
    match store.bytes? key with
    | none => .plain none
    | some bytes => decodeResponse key bytes

/-- The store after a response was put under a key, to be kept at least one second.  A store that is
out of reach takes nothing; a store in reach takes bytes, and not every text has some. -/
def set (store : RemoteStore) (key : String) (payload : WideJson) (ttl : Int) :
    Reported (Except EncodeError RemoteStore) :=
  match store.outage with
  | some reason => ⟨.ok store, [.writeFailed key reason]⟩
  | none => .plain ((Text.encode payload.write).map fun bytes =>
      store.put key ⟨bytes, some (max ttl 1)⟩)

def clear (store : RemoteStore) : Reported RemoteStore :=
  match store.outage with
  | some reason => ⟨store, [.clearFailed reason]⟩
  | none => .plain store.withoutOwn

end RemoteStore

end CatalogSearch
