import CatalogSearch.Number.Literal

/-!
# Command line arguments

A command line holds options, each with one value, and at most one free argument.  An option
may be shortened as long as no other one starts so, and its value may follow an equals sign.
After two hyphens alone nothing is an option.
-/

namespace CatalogSearch

open Text

inductive ValueKind
  | text
  | integer
  | number
  | oneOf (choices : List String)
  deriving DecidableEq, Repr

inductive OptionRole
  /-- It asks for help and takes no value. -/
  | help
  /-- It takes a value of a kind. -/
  | takes (kind : ValueKind)
  deriving DecidableEq, Repr

structure OptionSpec where
  names : List String
  role : OptionRole
  deriving DecidableEq, Repr

inductive UsageError
  /-- Several options start as the argument does. -/
  | ambiguous (argument : String) (matching : List String)
  /-- The value of an option is missing. -/
  | missingValue (option : String)
  /-- An option without a value was given one. -/
  | ignoredValue (option value : String)
  /-- The value of an option is no number of its kind. -/
  | invalidNumber (option kind value : String)
  /-- The value of an option is not one of the choices. -/
  | invalidChoice (option value : String) (choices : List String)
  /-- Arguments are left over. -/
  | unrecognized (arguments : List String)
  deriving DecidableEq, Repr

namespace UsageError

def inQuotes (text : String) : String :=
  String.ofList (quoted text.toList)

def message : UsageError -> String
  | ambiguous argument matching =>
    s!"ambiguous option: {argument} could match " ++ ", ".intercalate matching
  | missingValue option => s!"argument {option}: expected one argument"
  | ignoredValue option value =>
    s!"argument {option}: ignored explicit argument " ++ inQuotes value
  | invalidNumber option kind value =>
    s!"argument {option}: invalid {kind} value: " ++ inQuotes value
  | invalidChoice option value choices =>
    s!"argument {option}: invalid choice: " ++ inQuotes value ++ " (choose from " ++
      ", ".intercalate (choices.map inQuotes) ++ ")"
  | unrecognized arguments => "unrecognized arguments: " ++ " ".intercalate arguments

end UsageError

inductive Argument
  | free (text : String)
  | separator
  | option (spec : OptionSpec) (value : Option String)
  | unknown (text : String)
  deriving DecidableEq, Repr

namespace Argument

def isNegativeNumber (text : List Char) : Bool :=
  match text with
  | '-' :: rest =>
    let rest := if rest.getLast? == some '\n' then rest.dropLast else rest
    match rest.dropWhile isDigit with
    | [] => !rest.isEmpty
    | '.' :: fraction => !fraction.isEmpty && fraction.all isDigit
    | _ => false
  | _ => false

def splitEquals (text : String) : String × Option String :=
  let name := text.toList.takeWhile (· != '=')
  match text.toList.dropWhile (· != '=') with
  | _ :: value => (String.ofList name, some (String.ofList value))
  | [] => (text, none)

def find? (specs : List OptionSpec) (name : String) : Option OptionSpec :=
  specs.find? fun spec => spec.names.contains name

def startingWith (specs : List OptionSpec) (start : String) : List (String × OptionSpec) :=
  specs.flatMap fun spec =>
    (spec.names.filter fun name => name.startsWith start).map fun name => (name, spec)

/-- The value in the letters joined to a call for help by its letter: more such calls may come
first, then a hyphen starts a value and an equals sign stands before one.  Anything else counts for
nothing. -/
def helpValue? (letter : Char) (joined : List Char) : Option String :=
  match joined.dropWhile (· == letter) with
  | '=' :: value => some (String.ofList value)
  | '-' :: value => some (String.ofList ('-' :: value))
  | _ => none

def joinedValue? (role : OptionRole) (letter : Char) (joined : List Char) : Option String :=
  match role with
  | .help => helpValue? letter joined
  | .takes _ => some (String.ofList joined)

/-- The options that a shortened argument may stand for.  A single hyphen introduces a name of one
letter, and what follows it is a value. -/
def candidates (specs : List OptionSpec) (text : String) :
    List (String × OptionSpec × Option String) :=
  match text.toList with
  | '-' :: '-' :: _ =>
    let (name, value) := splitEquals text
    (startingWith specs name).map fun (name, spec) => (name, spec, value)
  | '-' :: letter :: rest =>
    let name := String.ofList ['-', letter]
    (find? specs name).toList.map fun spec => (name, spec, joinedValue? spec.role letter rest)
  | _ => []

def classifyRest (specs : List OptionSpec) (text : String) : Except UsageError Argument :=
  match candidates specs text with
  | [(_, spec, value)] => .ok (.option spec value)
  | [] =>
    if isNegativeNumber text.toList || text.toList.contains ' ' then .ok (.free text)
    else .ok (.unknown text)
  | several => .error (.ambiguous text (several.map (·.1)))

def classify (specs : List OptionSpec) (text : String) : Except UsageError Argument :=
  if !text.startsWith "-" || text == "-" then .ok (.free text)
  else if text == "--" then .ok .separator
  else match find? specs text with
    | some spec => .ok (.option spec none)
    | none =>
      match splitEquals text with
      | (name, some value) =>
        match find? specs name with
        | some spec => .ok (.option spec (some value))
        | none => classifyRest specs text
      | _ => classifyRest specs text

def classifyAll (specs : List OptionSpec) : List String -> Except UsageError (List Argument)
  | [] => .ok []
  | text :: rest => do
    let first ← classify specs text
    match first with
    | .separator => .ok (.separator :: rest.map .free)
    | first => do
      let others ← classifyAll specs rest
      .ok (first :: others)

end Argument

/-! ## Values -/

def OptionSpec.shown (spec : OptionSpec) : String :=
  "/".intercalate spec.names

inductive OptionValue
  | text (value : String)
  | integer (value : Int)
  | number (value : Binary64)
  deriving DecidableEq, Repr

def ValueKind.read (spec : OptionSpec) (text : String) : ValueKind -> Except UsageError OptionValue
  | .text => .ok (.text text)
  | .integer =>
    match readInteger text with
    | .ok value => .ok (.integer value)
    | .error _ => .error (.invalidNumber spec.shown "int" text)
  | .number =>
    match readNumber text with
    | .ok value => .ok (.number value)
    | .error _ => .error (.invalidNumber spec.shown "float" text)
  | .oneOf choices =>
    if choices.contains text then .ok (.text text)
    else .error (.invalidChoice spec.shown text choices)

/-! ## Command lines -/

structure CommandLine where
  /-- The values of options by their main names, the last one given first. -/
  values : List (String × OptionValue) := []
  /-- The free argument, once its place was taken. -/
  free : Option (Option String) := none
  /-- Arguments that have no place, the last one first. -/
  leftOver : List String := []
  /-- Whether help was asked for. -/
  wantsHelp : Bool := false
  deriving Repr

namespace CommandLine

def withValue (line : CommandLine) (spec : OptionSpec) (kind : ValueKind) (text : String) :
    Except UsageError CommandLine :=
  (kind.read spec text).map fun value =>
    { line with values := (spec.names.getLast?.getD "", value) :: line.values }

/-- The command line after the given arguments; nothing after a call for help is looked at. -/
def scan (line : CommandLine) : List Argument -> Except UsageError CommandLine
  | [] => .ok line
  | .free text :: rest =>
    match line.free, rest with
    | some _, rest => scan { line with leftOver := text :: line.leftOver } rest
    | none, .separator :: rest => scan { line with free := some (some text) } rest
    | none, rest => scan { line with free := some (some text) } rest
  | .separator :: rest =>
    match line.free, rest with
    | some _, rest => scan { line with leftOver := "--" :: line.leftOver } rest
    | none, .free text :: rest => scan { line with free := some (some text) } rest
    | none, rest => scan { line with free := some none } rest
  | .unknown text :: rest => scan { line with leftOver := text :: line.leftOver } rest
  | .option spec value :: rest =>
    match spec.role, value, rest with
    | .help, none, _ => .ok { line with wantsHelp := true }
    | .help, some value, _ => .error (.ignoredValue spec.shown value)
    | .takes kind, some value, rest => do
      let line ← line.withValue spec kind value
      scan line rest
    | .takes kind, none, .free text :: rest => do
      let line ← line.withValue spec kind text
      scan line rest
    | .takes _, none, _ => .error (.missingValue spec.shown)

def ofArguments (specs : List OptionSpec) (arguments : List String) :
    Except UsageError CommandLine := do
  let classified ← Argument.classifyAll specs arguments
  let line ← scan {} classified
  if line.wantsHelp || line.leftOver.isEmpty then .ok line
  else .error (.unrecognized line.leftOver.reverse)

def text? (line : CommandLine) (name : String) : Option String :=
  match line.values.lookup name with
  | some (.text value) => some value
  | _ => none

def integer? (line : CommandLine) (name : String) : Option Int :=
  match line.values.lookup name with
  | some (.integer value) => some value
  | _ => none

def number? (line : CommandLine) (name : String) : Option Binary64 :=
  match line.values.lookup name with
  | some (.number value) => some value
  | _ => none

end CommandLine

end CatalogSearch
