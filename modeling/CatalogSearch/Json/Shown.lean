import CatalogSearch.Json.Basic
import CatalogSearch.Number.Literal

/-!
# Values shown as text

A value may stand where a text is expected.  It is then shown as text: a string as it is,
anything else by its parts, with strings inside it quoted.
-/

namespace CatalogSearch

open Text

namespace Json

def listed : List (List Char) -> List Char
  | [] => []
  | [part] => part
  | part :: rest => part ++ ',' :: ' ' :: listed rest

mutual

def shownInside : Json -> List Char
  | .null => ['N', 'o', 'n', 'e']
  | .bool true => ['T', 'r', 'u', 'e']
  | .bool false => ['F', 'a', 'l', 's', 'e']
  | .int value => integerText value
  | .float value => value.text
  | .string value => quoted value.toList
  | .array items => '[' :: listed (shownItems items) ++ [']']
  | .object members => '\x7b' :: listed (shownMembers members) ++ ['\x7d']

def shownItems : List Json -> List (List Char)
  | [] => []
  | item :: rest => shownInside item :: shownItems rest

def shownMembers : List (String × Json) -> List (List Char)
  | [] => []
  | (name, value) :: rest =>
    (quoted name.toList ++ ':' :: ' ' :: shownInside value) :: shownMembers rest

end

def shown : Json -> List Char
  | .string value => value.toList
  | value => shownInside value

def shownText (value : Json) : String :=
  String.ofList value.shown

def quotedText (value : Json) : String :=
  String.ofList value.shownInside

mutual

def isShowable : Json -> Bool
  | .int value => decide ((decimalDigits value.natAbs).length ≤ digitLimit)
  | .array items => areShowable items
  | .object members => membersShowable members
  | _ => true

def areShowable : List Json -> Bool
  | [] => true
  | item :: rest => isShowable item && areShowable rest

def membersShowable : List (String × Json) -> Bool
  | [] => true
  | (_, value) :: rest => isShowable value && membersShowable rest

end

def kindName : Json -> String
  | .null => "NoneType"
  | .bool _ => "bool"
  | .int _ => "int"
  | .float _ => "float"
  | .string _ => "str"
  | .array _ => "list"
  | .object _ => "dict"

/-! ## Numbers from values -/

def wholePart : Binary64 -> Except NumberError Int
  | .nan => .error .wholePartOfNaN
  | .signed negative size =>
    if size.isFinite then .ok (Binary64.truncate (.signed negative size))
    else .error .wholePartOfInfinity

/-- The integer that a value stands for; a fraction is cut off and a text is read. -/
def toInteger : Json -> Except NumberError Int
  | .bool value => .ok (if value then 1 else 0)
  | .int value => .ok value
  | .float value => wholePart value
  | .string value => readInteger value
  | _ => .error .wrongKind

/-- The number nearest to an integer, unless that is infinite. -/
def binaryOfInteger (value : Int) : Except NumberError Binary64 :=
  (Binary64.ofInt? value).elim (.error .integerTooLarge) .ok

def toBinary : Json -> Except NumberError Binary64
  | .bool value => .ok (if value then .ofNat 1 else .zero)
  | .int value => binaryOfInteger value
  | .float value => .ok value
  | .string value => CatalogSearch.readNumber value
  | _ => .error .wrongKind

end Json

end CatalogSearch
