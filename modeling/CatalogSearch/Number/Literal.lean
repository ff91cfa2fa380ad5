import CatalogSearch.Number.Decimal
import CatalogSearch.Text.Blank
import CatalogSearch.Text.Quoted

/-!
# Numbers written by people

Settings, arguments and parameters hold numbers as text.  White space around a number, single
underscores between its digits and the decimal digits of every script are accepted.
-/

namespace CatalogSearch

open Text

inductive NumberError
  /-- The text is no integer. -/
  | notAnInteger (text : String)
  /-- The text is no number. -/
  | notANumber (text : String)
  /-- The text of the integer has more digits than are read. -/
  | tooManyDigits (count : Nat)
  /-- What is not a number has no whole part. -/
  | wholePartOfNaN
  /-- Infinity has no whole part. -/
  | wholePartOfInfinity
  /-- The integer is beyond the binary64 numbers. -/
  | integerTooLarge
  /-- The value is of a kind that no number is made of. -/
  | wrongKind
  deriving DecidableEq, Repr

def digitLimit : Nat := 4300

namespace NumberError

def message : NumberError -> String
  | notAnInteger text =>
    "invalid literal for int() with base 10: " ++ String.ofList ((quoted text.toList).take 200)
  | notANumber text => "could not convert string to float: " ++ String.ofList (quoted text.toList)
  | tooManyDigits count =>
    s!"Exceeds the limit ({digitLimit} digits) for integer string conversion: value has {count} "
      ++ "digits; use sys.set_int_max_str_digits() to increase the limit"
  | wholePartOfNaN => "cannot convert float NaN to integer"
  | wholePartOfInfinity => "cannot convert float infinity to integer"
  | integerTooLarge => "int too large to convert to float"
  | wrongKind => "the value is no number"

end NumberError

/-! ## Digits with separators -/

/-- The digits of a run in which every underscore stands between two digits, and what follows. -/
def separatedDigits : List Char -> Option (List Char × List Char)
  | [] => none
  | c :: '_' :: rest =>
    if isDigit c then (separatedDigits rest).map fun (digits, after) => (c :: digits, after)
    else none
  | c :: rest =>
    if isDigit c then
      match separatedDigits rest with
      | some (digits, after) => some (c :: digits, after)
      | none => if rest.head?.any isDigit then none else some ([c], rest)
    else none

def splitSign : List Char -> Bool × List Char
  | '-' :: rest => (true, rest)
  | '+' :: rest => (false, rest)
  | text => (false, text)

/-! ## Integers -/

def readInteger (text : String) : Except NumberError Int :=
  let (negative, body) := splitSign (strip text.toList)
  match separatedDigits body with
  | some (digits, []) =>
    if digitLimit < digits.length then .error (.tooManyDigits digits.length)
    else .ok (if negative then -(digitsValue digits : Int) else digitsValue digits)
  | _ => .error (.notAnInteger text)

/-! ## Numbers with a fraction or an exponent -/

def readExponent : List Char -> Option Int
  | [] => some 0
  | c :: rest =>
    if c = 'e' ∨ c = 'E' then
      let (negative, body) := splitSign rest
      match separatedDigits body with
      | some (digits, []) =>
        some (if negative then -(digitsValue digits : Int) else digitsValue digits)
      | _ => none
    else none

def readFraction (text : List Char) : List Char × List Char :=
  (separatedDigits text).getD ([], text)

def readDecimal (negative : Bool) (text : List Char) : Option Binary64 :=
  let (whole, afterWhole) := (separatedDigits text).getD ([], text)
  let (fraction, afterFraction) := match afterWhole with
    | '.' :: rest => readFraction rest
    | rest => ([], rest)
  if whole.isEmpty && fraction.isEmpty then none
  else (readExponent afterFraction).map fun exponent =>
    .ofDecimal negative (digitsValue (whole ++ fraction)) (exponent - fraction.length)

def readName (negative : Bool) (text : List Char) : Option Binary64 :=
  let name := String.ofList (text.map Char.toLower)
  if name == "inf" || name == "infinity" then some (.signed negative .infinite)
  else if name == "nan" then some .nan
  else none

def readStripped? (text : List Char) : Option Binary64 :=
  let (negative, body) := splitSign text
  (readName negative body).orElse fun _ => readDecimal negative body

def readNumber? (text : List Char) : Option Binary64 :=
  readStripped? (strip text)

def readNumber (text : String) : Except NumberError Binary64 :=
  match readNumber? text.toList with
  | some value => .ok value
  | none => .error (.notANumber text)

end CatalogSearch
