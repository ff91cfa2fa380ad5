import CatalogSearch.Catalog.Files
import CatalogSearch.Text.Blank
import CatalogSearch.Text.Occurrence

/-!
# Sources of catalogs

A missing catalog may be fetched from a URL.  What comes of that is for the world to say; here
a URL is taken apart, and the files of this machine that it may lead to are read for a program
that knows no other sources.
-/

namespace CatalogSearch

open Text

inductive FetchError
  /-- The text is no URL. -/
  | noScheme
  /-- The source is out of reach. -/
  | unreachable
  /-- The transfer broke off after some bytes. -/
  | brokenOff (received : ByteArray)

namespace Source

def unwrapped (url : List Char) : List Char :=
  let bare := strip url
  let inner := if bare.head? == some '<' && bare.getLast? == some '>' then
    strip (bare.drop 1).dropLast else bare
  match dropLead? "URL:".toList inner with
  | some rest => strip rest
  | none => inner

def withoutFragment (url : List Char) : List Char :=
  if url.contains '#' then (url.reverse.dropWhile (· != '#')).reverse.dropLast else url

def splitScheme (url : List Char) : Option (List Char × List Char) :=
  let scheme := url.takeWhile fun c => c != ':' && c != '/'
  match url.dropWhile fun c => c != ':' && c != '/' with
  | ':' :: rest => if scheme.isEmpty then none else some (scheme.map Char.toLower, rest)
  | _ => none

def splitHost : List Char -> List Char × List Char
  | '/' :: '/' :: rest => (rest.takeWhile (· != '/'), rest.dropWhile (· != '/'))
  | path => ([], path)

def hexDigitValue? (c : Char) : Option Nat :=
  if '0' ≤ c ∧ c ≤ '9' then some (c.toNat - 0x30)
  else if 'a' ≤ c.toLower ∧ c.toLower ≤ 'f' then some (c.toLower.toNat - 0x57)
  else none

def unescape : List Char -> List Char
  | '%' :: a :: b :: rest =>
    match hexDigitValue? a, hexDigitValue? b with
    | some high, some low =>
      if high < 8 then Char.ofNat (high * 16 + low) :: unescape rest
      else '%' :: a :: b :: unescape rest
    | _, _ => '%' :: unescape (a :: b :: rest)
  | c :: rest => c :: unescape rest
  | [] => []

def isLocal (host : List Char) : Bool :=
  host.isEmpty || String.ofList host == "localhost" || String.ofList host == "127.0.0.1"

def localPath? (scheme rest : List Char) : Option String :=
  let (host, path) := splitHost rest
  if scheme == ['f', 'i', 'l', 'e'] && isLocal host then
    some (Files.normalPath (String.ofList (unescape path)))
  else none

def split (url : String) : Option (List Char × List Char) :=
  splitScheme (withoutFragment (unwrapped url.toList))

def pathOf? (url : String) : Option String :=
  (split url).bind fun (scheme, rest) => localPath? scheme rest

def fetchLocal (files : Files) (url : String) : Except FetchError ByteArray :=
  match split url with
  | none => .error .noScheme
  | some (scheme, rest) =>
    match localPath? scheme rest with
    | some path => (files.openFile path).mapError fun _ => .unreachable
    | none => .error .unreachable

end Source

end CatalogSearch
