import CatalogSearch.Cli.Argument
import CatalogSearch.Cli.Report
import CatalogSearch.Service.Basic

/-!
# The command line program

The program loads a catalog and answers one query, the queries of a file, or queries typed one
by one until an end is asked for.
-/

namespace CatalogSearch

open Text

inductive SessionError
  /-- The catalog was not loaded. -/
  | load (cause : LoadError)
  /-- The file of queries is missing. -/
  | noBatchFile (path : String)
  /-- The file of queries is a directory. -/
  | batchDirectory
  /-- The path of the file of queries leads through a file. -/
  | batchNotADirectory
  /-- The file of queries is no text. -/
  | batchNotText
  /-- A search gives no response. -/
  | search (cause : SearchError)
  /-- A response is not printed. -/
  | report (cause : ReportError)
  deriving DecidableEq, Repr

inductive SessionEnd
  | done
  | help
  | usage (error : UsageError)
  | failed (error : SessionError)
  deriving DecidableEq, Repr

structure Session where
  output : List Char
  warnings : List Warning
  ending : SessionEnd
  deriving Repr

namespace Session

def options : List OptionSpec := [
  ⟨["-h", "--help"], .help⟩,
  ⟨["--batch"], .takes .text⟩,
  ⟨["--catalog"], .takes .text⟩,
  ⟨["--sort"], .takes (.oneOf (SortKey.all.map SortKey.text))⟩,
  ⟨["--page"], .takes .integer⟩,
  ⟨["--page-size"], .takes .integer⟩,
  ⟨["--brand"], .takes .text⟩,
  ⟨["--category"], .takes .text⟩,
  ⟨["--min-price"], .takes .number⟩,
  ⟨["--max-price"], .takes .number⟩]

def request (settings : Settings) (line : CommandLine) (query : String) : SearchRequest := {
  query := query
  sort := .ofText? (line.text? "--sort")
  page := .int ((line.integer? "--page").getD 1)
  pageSize := .int ((line.integer? "--page-size").getD settings.pageSize)
  brand := line.text? "--brand"
  category := line.text? "--category"
  minPrice := (line.number? "--min-price").map .binary
  maxPrice := (line.number? "--max-price").map .binary
}

/-! ## Answers -/

/-- What the program works with once its catalog is loaded.  Its service keeps no responses, so it
is the same after every answer.  The search for the n-th line takes `times n` milliseconds. -/
structure Running where
  setup : ServiceSetup
  service : Service
  line : CommandLine
  times : Nat -> Binary64

def printing (text : List Char) (rest : Session) : Session :=
  { rest with output := text ++ rest.output }

def endedBy (reason : SessionEnd) : Session :=
  ⟨[], [], reason⟩

def answering (running : Running) (place : Nat) (query : String) (rest : Session) : Session :=
  let outcome := running.service.search running.setup .zero (running.times place)
    (request running.setup.settings running.line query)
  match outcome.value.1 with
  | .error cause => ⟨[], outcome.warnings, .failed (.search cause)⟩
  | .ok answered =>
    match Report.ofResponse query answered.response with
    | .error cause => ⟨[], outcome.warnings, .failed (.report cause)⟩
    | .ok text => ⟨text ++ rest.output, outcome.warnings ++ rest.warnings, rest.ending⟩

/-! ## Queries of a file -/

def linesOf (current : List Char) : List Char -> List (List Char)
  | [] => if current.isEmpty then [] else [current.reverse]
  | '\r' :: '\n' :: rest => current.reverse :: linesOf [] rest
  | '\n' :: rest => current.reverse :: linesOf [] rest
  | '\r' :: rest => current.reverse :: linesOf [] rest
  | c :: rest => linesOf (c :: current) rest

def batch (running : Running) (place : Nat) : List (List Char) -> Session
  | [] => endedBy .done
  | line :: rest =>
    let others := batch running (place + 1) rest
    if (strip line).isEmpty then others
    else answering running place (String.ofList (strip line)) others

def batchFile (running : Running) (files : Files) (path : String) : Session :=
  match files.openFile path with
  | .error .missing => endedBy (.failed (.noBatchFile path))
  | .error .directory => endedBy (.failed .batchDirectory)
  | .error .notADirectory => endedBy (.failed .batchNotADirectory)
  | .ok content =>
    match String.fromUTF8? content with
    | none => endedBy (.failed .batchNotText)
    | some text => batch running 0 (linesOf [] text.toList)

/-! ## Typed queries -/

def greeting : List Char := "Interactive product search. Type 'exit' to quit.\n".toList

def prompt : List Char := ['>', ' ']

def isFarewell (line : List Char) : Bool :=
  ["exit", "quit"].contains (String.ofList (lower (strip line)))

def typedLine (running : Running) (place : Nat) (line : List Char) (rest : Session) : Session :=
  answering running place (String.ofList (strip line)) rest

def interactive (running : Running) (place : Nat) : List String -> Session
  | [] => printing (prompt ++ ['\n']) (endedBy .done)
  | line :: rest =>
    let others := interactive running (place + 1) rest
    if isFarewell line.toList then printing prompt (endedBy .done)
    else printing prompt (typedLine running place line.toList others)

/-! ## Whole sessions -/

inductive Task
  /-- The queries of a file are answered. -/
  | batch (path : String)
  /-- One query is answered. -/
  | single (query : String)
  /-- Typed queries are answered. -/
  | interactive
  deriving DecidableEq, Repr

/-- The task of a command line; a file of queries comes before a query on the line. -/
def task (line : CommandLine) : Task :=
  match line.text? "--batch", line.free with
  | some path, _ => .batch (Files.normalPath path)
  | none, some (some query) => .single query
  | none, _ => .interactive

def catalogPath (settings : Settings) (line : CommandLine) : String :=
  ((line.text? "--catalog").map Files.normalPath).getD settings.catalogPath

structure Surroundings where
  settings : Settings := {}
  files : Files := {}
  /-- What the source of the catalog gives, if it is asked. -/
  fetched : Except FetchError ByteArray := .error .unreachable
  /-- The milliseconds that the searches take. -/
  times : Nat -> Binary64 := fun _ => .zero

def load (around : Surroundings) (line : CommandLine) :
    Reported (Except LoadError Running) × Files :=
  let (loaded, files) := Service.reload ⟨⟨[], 0⟩, .none⟩ around.fetched around.files
    (catalogPath around.settings line) around.settings.catalogSourceUrl
  (loaded.map fun (count, service) => count.map fun _ => {
    setup := {
      settings := around.settings
      matcher := some (Fuzzy.matcher around.settings.fuzzyThreshold) }
    service := service
    line := line
    times := around.times }, files)

def serve (running : Running) (files : Files) (typed : List String) : Task -> Session
  | .batch path => batchFile running files path
  | .single query => answering running 0 query (endedBy .done)
  | .interactive => printing greeting (interactive running 0 typed)

def start (around : Surroundings) (typed : List String) (line : CommandLine) : Session :=
  let (loaded, files) := load around line
  match loaded.value with
  | .error cause => ⟨[], loaded.warnings, .failed (.load cause)⟩
  | .ok running =>
    let session := serve running files typed (task line)
    { session with warnings := loaded.warnings ++ session.warnings }

def run (around : Surroundings) (typed arguments : List String) : Session :=
  match CommandLine.ofArguments options arguments with
  | .error error => endedBy (.usage error)
  | .ok line => if line.wantsHelp then endedBy .help else start around typed line

end Session

namespace SessionError

def message : SessionError -> String
  | load cause => cause.message
  | noBatchFile path =>
    s!"[Errno 2] No such file or directory: {String.ofList (quoted path.toList)}"
  | batchDirectory => "The file of queries is a directory"
  | batchNotADirectory => "The path of the file of queries leads through a file"
  | batchNotText => "The file of queries is not UTF-8 text"
  | search cause => cause.message
  | report cause => cause.message

end SessionError

end CatalogSearch
