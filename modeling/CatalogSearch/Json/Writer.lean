import CatalogSearch.Json.Basic
import CatalogSearch.Number.Decimal

/-!
# Written JSON

A value on one line.  Items are separated by a comma and a space, a name and its value by a
colon and a space; only quotes, backslashes and controls are escaped, and surrogates stand as
they are.
-/

namespace CatalogSearch

open Text

namespace Json

def escapedChar (c : Char) : List Char :=
  if c = '\x22' ∨ c = '\x5c' then ['\x5c', c]
  else if c = '\n' then ['\x5c', 'n']
  else if c = '\r' then ['\x5c', 'r']
  else if c = '\t' then ['\x5c', 't']
  else if c = '\x08' then ['\x5c', 'b']
  else if c = '\x0c' then ['\x5c', 'f']
  else if c.toNat < 0x20 then '\x5c' :: 'u' :: hexDigits 4 c.toNat
  else [c]

end Json

namespace WideJson

def escaped : CodePoint -> WideText
  | .char c => Text.wide (Json.escapedChar c)
  | .surrogate place => [.surrogate place]

def writeString (text : WideText) : WideText :=
  .char '\x22' :: text.flatMap escaped ++ [.char '\x22']

def separate : List WideText -> WideText
  | [] => []
  | [item] => item
  | item :: rest => item ++ .char ',' :: .char ' ' :: separate rest

mutual

def write : WideJson -> WideText
  | .null => Text.wide ['n', 'u', 'l', 'l']
  | .bool true => Text.wide ['t', 'r', 'u', 'e']
  | .bool false => Text.wide ['f', 'a', 'l', 's', 'e']
  | .int value => Text.wide (integerText value)
  | .float value => Text.wide (value.shortestText Binary64.documentLayout)
  | .string value => writeString value
  | .array items => .char '[' :: separate (writeItems items) ++ [.char ']']
  | .object members => .char '\x7b' :: separate (writeMembers members) ++ [.char '\x7d']

def writeItems : List WideJson -> List WideText
  | [] => []
  | item :: rest => write item :: writeItems rest

def writeMembers : List (WideText × WideJson) -> List WideText
  | [] => []
  | (name, value) :: rest =>
    (writeString name ++ .char ':' :: .char ' ' :: write value) :: writeMembers rest

end

end WideJson

namespace Json

def write (value : Json) : List Char :=
  Text.shown (WideJson.write value.wide)

def toText (value : Json) : String :=
  String.ofList value.write

end Json

end CatalogSearch
