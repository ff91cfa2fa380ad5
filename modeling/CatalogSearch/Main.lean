import CatalogSearch.Cli.Session

/-!
# The program

The program reads its settings from the environment and the files that its command line names,
prints its session, and writes a fetched catalog where it belongs.  It fetches only files of
its machine and measures no times.  Warnings and faults go to standard error.
-/

namespace CatalogSearch

namespace Program

def name : String := "catalog-search"

def environment : IO Settings.Variables :=
  Settings.names.filterMapM fun key => do
    return (← IO.getEnv key).map fun value => (key, value)

def withFile (files : Files) (path : String) : IO Files := do
  try
    return files.put path (← IO.FS.readBinFile path)
  catch
    | .inappropriateType .. => return files.makeDirectory path
    | _ => return files

def filesFor (settings : Settings) (line : CommandLine) : IO Files := do
  let source := (Source.pathOf? settings.catalogSourceUrl).toList
  let queries := match Session.task line with
    | .batch path => [path]
    | _ => []
  let catalog := Session.catalogPath settings line
  (catalog :: Files.parentPath catalog :: source ++ queries).foldlM withFile {}

def writeNew (before after : Files) (path : String) : IO Unit := do
  for directory in after.directories do
    if !before.directories.contains directory then IO.FS.createDirAll directory
  match before.content? path, after.content? path with
  | none, some content => IO.FS.writeBinFile path content
  | _, _ => return

def warn (warnings : List Warning) : IO Unit :=
  warnings.forM fun warning => IO.eprintln warning.message

def printNow (text : List Char) : IO Unit := do
  IO.print (String.ofList text)
  (← IO.getStdout).flush

def fail (reason : String) : IO UInt32 := do
  IO.eprintln (name ++ ": " ++ reason)
  return 1

def finish (session : Session) : IO UInt32 := do
  warn session.warnings
  printNow session.output
  match session.ending with
  | .done | .help => return 0
  | .usage error =>
    IO.eprintln (name ++ ": error: " ++ error.message)
    return 2
  | .failed error => fail error.message

partial def converse (running : Session.Running) (place : Nat) (input : IO.FS.Stream) :
    IO UInt32 := do
  printNow Session.prompt
  let line ← input.getLine
  if line.isEmpty then
    printNow ['\n']
    return 0
  else if Session.isFarewell line.toList then return 0
  else
    let code ← finish (Session.typedLine running place line.toList (Session.endedBy .done))
    if code == 0 then converse running (place + 1) input else return code

def serve (settings : Settings) (line : CommandLine) : IO UInt32 := do
  let files ← filesFor settings line
  let (loaded, after) := Session.load {
    settings := settings
    files := files
    fetched := Source.fetchLocal files settings.catalogSourceUrl } line
  warn loaded.warnings
  writeNew files after (Session.catalogPath settings line)
  match loaded.value, Session.task line with
  | .error cause, _ => fail cause.message
  | .ok running, .interactive => do
    printNow Session.greeting
    converse running 0 (← IO.getStdin)
  | .ok running, task => finish (Session.serve running after [] task)

def run (arguments : List String) : IO UInt32 := do
  match Settings.ofVariables (← environment) with
  | .error cause => fail cause.message
  | .ok settings =>
    match CommandLine.ofArguments Session.options arguments with
    | .error error => finish (Session.endedBy (.usage error))
    | .ok line =>
      if line.wantsHelp then finish (Session.endedBy .help) else serve settings line

end Program

end CatalogSearch

def main (arguments : List String) : IO UInt32 :=
  CatalogSearch.Program.run arguments
