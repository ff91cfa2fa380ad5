/-!
# Files

The files that a catalog may be read from and written to, each under a path.  A directory is
known by its own path or by what lies in it; the current one and the root are always there.
-/

namespace CatalogSearch

structure Files where
  contents : List (String × ByteArray) := []
  directories : List String := []

namespace Files

def content? (files : Files) (path : String) : Option ByteArray :=
  files.contents.lookup path

def isBelow (path ancestor : String) : Bool :=
  path.startsWith (ancestor ++ "/")

/-- The directories that nobody has to make. -/
def standing : List String := [".", "/"]

def isDirectory (files : Files) (path : String) : Bool :=
  (files.directories ++ files.contents.map (·.1)).any (isBelow · path) ||
    (files.directories ++ standing).contains path

def hasPath (files : Files) (path : String) : Bool :=
  (files.content? path).isSome || files.isDirectory path

def leadsThroughFile (files : Files) (path : String) : Bool :=
  files.contents.any fun entry => isBelow path entry.1

def put (files : Files) (path : String) (content : ByteArray) : Files :=
  { files with
    contents := files.contents.filter (fun entry => entry.1 != path) ++ [(path, content)] }

def remove (files : Files) (path : String) : Files :=
  { files with contents := files.contents.filter fun entry => entry.1 != path }

inductive OpenError
  | missing
  | directory
  | notADirectory
  deriving DecidableEq, Repr

def openFile (files : Files) (path : String) : Except OpenError ByteArray :=
  match files.content? path with
  | some content => .ok content
  | none =>
    if files.isDirectory path then .error .directory
    else if files.leadsThroughFile path then .error .notADirectory
    else .error .missing

def makeDirectory (files : Files) (path : String) : Files :=
  { files with directories := path :: files.directories }

def parentPath (path : String) : String :=
  match path.toList.reverse.dropWhile (· != '/') with
  | [] => "."
  | ['/'] => "/"
  | _ :: parent => String.ofList parent.reverse

inductive Obstacle
  /-- Its directory is a file itself. -/
  | directoryIsFile (directory : String)
  /-- The path of its directory leads through a file. -/
  | notADirectory
  deriving DecidableEq, Repr

/-- What is in the way of a file at a path, if anything is: its directory can be made. -/
def obstacle? (files : Files) (path : String) : Option Obstacle :=
  let directory := parentPath path
  if (files.content? directory).isSome then some (.directoryIsFile directory)
  else if files.leadsThroughFile directory then some .notADirectory
  else none

def normalPath (path : String) : String :=
  let parts := (path.splitOn "/").filter fun part => part != "" && part != "."
  let body := "/".intercalate parts
  if path.startsWith "/" then "/" ++ body else if body == "" then "." else body

end Files

end CatalogSearch
