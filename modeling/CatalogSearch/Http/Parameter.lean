import CatalogSearch.Number.Literal

/-!
# Numbers in query parameters

A parameter holds its number in ASCII digits with single underscores between them and white
space around it.  A whole number may have a fraction of zeros.  White space does not count the
separators among the controls here.
-/

namespace CatalogSearch

open Text

inductive ParameterFault
  /-- The text is no integer. -/
  | notAnInteger
  /-- The text has more digits than an integer is read from. -/
  | integerTooLong
  /-- The text is no number. -/
  | notANumber
  /-- The number is below its least value. -/
  | tooSmall
  /-- The number is above its greatest value. -/
  | tooLarge
  /-- The text is not one of the choices. -/
  | unknownChoice
  deriving DecidableEq, Repr

structure ParameterError where
  name : String
  fault : ParameterFault
  deriving DecidableEq, Repr

namespace ParameterFault

def code : ParameterFault -> String
  | notAnInteger => "int_parsing"
  | integerTooLong => "int_parsing_size"
  | notANumber => "float_parsing"
  | tooSmall => "greater_than_equal"
  | tooLarge => "less_than_equal"
  | unknownChoice => "enum"

end ParameterFault

namespace Parameter

def isMargin (c : Char) : Bool :=
  isBlank c && !(0x1C ≤ c.toNat && c.toNat ≤ 0x1F)

def trim (text : List Char) : List Char :=
  ((text.dropWhile isMargin).reverse.dropWhile isMargin).reverse

def isAscii (text : List Char) : Bool :=
  text.all fun c => c.toNat < 0x80

/-! ## Integers -/

/-- The digits of a whole number: what follows them may be a point with zeros. -/
def wholeDigits? (text : List Char) : Option (List Char) :=
  match separatedDigits text with
  | some (digits, []) => some digits
  | some (digits, '.' :: zeros) => if zeros.all (· == '0') then some digits else none
  | _ => none

def integer (text : String) : Except ParameterFault Int :=
  let trimmed := trim text.toList
  let (negative, body) := splitSign trimmed
  match wholeDigits? body with
  | none => .error .notAnInteger
  | some digits =>
    if !isAscii trimmed then .error .notAnInteger
    else if digitLimit < digits.length then .error .integerTooLong
    else .ok (if negative then -(digitsValue digits : Int) else digitsValue digits)

/-! ## Numbers -/

def hasDoubleUnderscore : List Char -> Bool
  | '_' :: '_' :: _ => true
  | _ :: rest => hasDoubleUnderscore rest
  | [] => false

def withoutUnderscores? (text : List Char) : Option (List Char) :=
  if text.head? == some '_' || text.getLast? == some '_' || hasDoubleUnderscore text then none
  else some (text.filter (· != '_'))

def plainNumber? (text : List Char) : Option Binary64 :=
  if isAscii text && !text.contains '_' then readStripped? text else none

/-- The number that a parameter holds; underscores leave no room for white space around it. -/
def number (text : String) : Except ParameterFault Binary64 :=
  match (plainNumber? (trim text.toList)).orElse fun _ =>
      (withoutUnderscores? text.toList).bind plainNumber? with
  | some value => .ok value
  | none => .error .notANumber

/-! ## Bounds -/

def between (low : Int) (high : Option Int) (value : Int) : Except ParameterFault Int :=
  if value < low then .error .tooSmall
  else if high.any fun high => high < value then .error .tooLarge
  else .ok value

def notNegative (value : Binary64) : Except ParameterFault Binary64 :=
  if Binary64.zero.le value then .ok value else .error .tooSmall

end Parameter

end CatalogSearch
