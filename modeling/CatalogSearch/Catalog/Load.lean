import CatalogSearch.Catalog.Rows
import CatalogSearch.Catalog.Source
import CatalogSearch.Json.Reader
import CatalogSearch.Text.Encoding
import CatalogSearch.Text.Occurrence
import CatalogSearch.Text.Quoted

/-!
# Loading a catalog

The catalog file is fetched first if it is missing and a source is given, and stays where it
was put whatever becomes of its content.  The content is a list of rows, or an object that
holds one.  What the source gives is told to a load from outside.
-/

namespace CatalogSearch

open Text

inductive LoadError
  /-- There is no file and no source. -/
  | missing (path : String)
  /-- The source is out of reach. -/
  | unreachable (url path : String)
  /-- The source is no URL. -/
  | noScheme (url : String)
  /-- The directory of the path is a file. -/
  | directoryIsFile (path : String)
  /-- The path is that of a directory. -/
  | directory
  /-- The path leads through a file. -/
  | notADirectory
  /-- The content is no text. -/
  | notText
  /-- The text is no JSON value. -/
  | notJson
  /-- A number cannot be kept. -/
  | number (cause : NumberError)
  deriving DecidableEq, Repr

namespace LoadError

def message : LoadError -> String
  | missing path => s!"Required data file missing and no download URL provided: {path}"
  | unreachable url path => s!"Failed to download {url} -> {path}"
  | noScheme url => s!"unknown url type: {String.ofList (quoted url.toList)}"
  | directoryIsFile path => s!"[Errno 17] File exists: {String.ofList (quoted path.toList)}"
  | directory => "The catalog path is that of a directory"
  | notADirectory => "The catalog path leads through a file"
  | notText => "The catalog file is not UTF-8 text"
  | notJson => "The catalog file is not JSON"
  | number cause => cause.message

end LoadError

namespace Catalog

def pointerMark : String := "version https://git-lfs.github.com/spec/v1"

/-- Puts what its source gave where a catalog is missing, in a directory that is made for it first.
Why no file is there, if none is, and the files afterwards. -/
def ensureFile (fetched : Except FetchError ByteArray) (files : Files) (path url : String) :
    Except LoadError Unit × Files :=
  if files.hasPath path then (.ok (), files)
  else if url == "" then (.error (.missing path), files)
  else match files.obstacle? path with
    | some (.directoryIsFile directory) => (.error (.directoryIsFile directory), files)
    | some .notADirectory => (.error .notADirectory, files)
    | none =>
      let files := files.makeDirectory (Files.parentPath path)
      match fetched with
      | .ok content => (.ok (), files.put path content)
      | .error .noScheme =>
        (.error (.noScheme (String.ofList (Source.unwrapped url.toList))), files)
      | .error .unreachable => (.error (.unreachable url path), files)
      | .error (.brokenOff received) =>
        (.error (.unreachable url path), files.put path received)

def rowsOf : Json -> Json
  | .object members =>
    let items : Json := (members.lookup "items").getD .null
    let products : Json := (members.lookup "products").getD .null
    if items.isPresent then items else if products.isPresent then products else .array []
  | value => value

def readRows (path : String) (text : List Char) : Reported (Except LoadError (List Json)) :=
  match Json.read text with
  | .error .malformed => .plain (.error .notJson)
  | .error (.tooManyDigits count) => .plain (.error (.number (.tooManyDigits count)))
  | .ok value =>
    match rowsOf value with
    | .array rows => .plain (.ok rows)
    | _ => ⟨.ok [], [.noProductList path]⟩

def readText (path : String) (text : List Char) : Reported (Except LoadError Catalog) :=
  let rows := readRows path text
  match rows.value with
  | .error error => ⟨.error error, rows.warnings⟩
  | .ok values =>
    let catalog := ofRows values
    ⟨catalog.value.mapError .number, rows.warnings ++ catalog.warnings⟩

def chunkSize : Nat := 8192

/-- Whether the first line of a file can be read: its bytes are decoded by chunks, up to the one
that shows where the line ends. -/
def firstLineReadable (content : ByteArray) : Bool :=
  let bytes := content.data.toList
  match firstLineEnd? bytes with
  | some last =>
    if last < bytes.length then decodesSoFar (bytes.take ((last / chunkSize + 1) * chunkSize))
    else (String.fromUTF8? content).isSome
  | none => (String.fromUTF8? content).isSome

def isPointer (content : ByteArray) : Bool :=
  pointerMark.toUTF8.data.toList.isPrefixOf content.data.toList

/-- The catalog in a file.  Its first line is read alone before all of it is. -/
def readContent (path : String) (content : ByteArray) : Reported (Except LoadError Catalog) :=
  if !firstLineReadable content then .plain (.error .notText)
  else if isPointer content then ⟨.ok [], [.pointerFile path]⟩
  else match String.fromUTF8? content with
    | none => .plain (.error .notText)
    | some text => readText path text.toList

def readFile (files : Files) (path : String) : Reported (Except LoadError Catalog) :=
  match files.openFile path with
  | .error .missing => .plain (.error (.missing path))
  | .error .directory => .plain (.error .directory)
  | .error .notADirectory => .plain (.error .notADirectory)
  | .ok content => readContent path content

/-- The catalog at a path and the files afterwards, given what the source gives if the catalog is
missing. -/
def loadFetched (fetched : Except FetchError ByteArray) (files : Files) (path url : String) :
    Reported (Except LoadError Catalog) × Files :=
  match ensureFile fetched files path url with
  | (.error error, files) => (.plain (.error error), files)
  | (.ok _, files) => (readFile files path, files)

end Catalog

end CatalogSearch
