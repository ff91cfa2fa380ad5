import CatalogSearch.Cache.Digest
import CatalogSearch.Json.Shown
import CatalogSearch.Json.Writer

/-!
# Keys of stored responses

The key of a response is made of everything that shapes it.  The parts are written as a list of
texts, so that no part can run into the next, and the key is the digest of that text after a
mark of this service.
-/

namespace CatalogSearch.Cache

def keyMark : String := "product-search:"

def keyText (parts : List Json) : List Char :=
  Json.write (.array (parts.map fun part => .string part.shownText))

def digestText (text : List Char) : List Char :=
  (Sha1.digest (String.ofList text).toUTF8.toList).flatMap fun word => Text.hexDigits 8 word.toNat

def key (parts : List Json) : String :=
  keyMark ++ String.ofList (digestText (keyText parts))

end CatalogSearch.Cache
