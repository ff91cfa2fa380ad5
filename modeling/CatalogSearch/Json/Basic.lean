import CatalogSearch.Number.Binary64
import CatalogSearch.Text.CodePoint

/-!
# JSON values

Integers of any size are kept apart from numbers written with a fraction or an exponent.  An
object keeps its members in the order in which their names first came.  The texts in a stored
value may hold lone surrogates; those in a value that is worked with are made of characters.
-/

namespace CatalogSearch

/-- A JSON value with names and texts of some type. -/
inductive Document (τ : Type)
  | null
  | bool (value : Bool)
  | int (value : Int)
  | float (value : Binary64)
  | string (value : τ)
  | array (items : List (Document τ))
  | object (members : List (τ × Document τ))
  deriving Repr, Inhabited

abbrev Json := Document String

abbrev WideJson := Document WideText

namespace Document

variable {σ τ : Type}

mutual

def map (f : σ -> τ) : Document σ -> Document τ
  | null => null
  | bool value => bool value
  | int value => int value
  | float value => float value
  | string value => string (f value)
  | array items => array (mapItems f items)
  | object members => object (mapMembers f members)

def mapItems (f : σ -> τ) : List (Document σ) -> List (Document τ)
  | [] => []
  | item :: rest => map f item :: mapItems f rest

def mapMembers (f : σ -> τ) : List (σ × Document σ) -> List (τ × Document τ)
  | [] => []
  | (name, value) :: rest => (f name, map f value) :: mapMembers f rest

end

def ofText? : Option τ -> Document τ
  | some text => string text
  | none => null

def ofNumber? : Option Binary64 -> Document τ
  | some value => float value
  | none => null

/-- Members with one value set: in place if the name is there, at the end otherwise. -/
def putMember [DecidableEq τ] (name : τ) (value : Document τ) :
    List (τ × Document τ) -> List (τ × Document τ)
  | [] => [(name, value)]
  | (other, old) :: rest =>
    if other = name then (name, value) :: rest else (other, old) :: putMember name value rest

end Document

namespace Json

def wide (value : Json) : WideJson :=
  value.map fun text => Text.wide text.toList

def member? (name : String) : Json -> Option Json
  | .object members => members.lookup name
  | _ => none

/-- Whether a value counts as present: null, false, zero and whatever is empty do not. -/
def isPresent : Json -> Bool
  | .null => false
  | .bool value => value
  | .int value => value != 0
  | .float value => !value.equals .zero
  | .string value => value != ""
  | .array items => !items.isEmpty
  | .object members => !members.isEmpty

end Json

namespace WideJson

def shown (value : WideJson) : Json :=
  value.map fun text => String.ofList (Text.shown text)

end WideJson

end CatalogSearch
