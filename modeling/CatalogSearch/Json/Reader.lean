import CatalogSearch.Json.Basic
import CatalogSearch.Number.Literal

/-!
# Reading JSON

A reader of one value that fills the whole text, white space around it aside.  Besides the
standard it reads the names of infinity and of what is not a number; of two members with one
name the last value counts.  A surrogate is read where a string holds it, or where an escape
names it and no pair.
-/

namespace CatalogSearch

open Text

namespace Json

inductive ReadError
  /-- The text is no value. -/
  | malformed
  /-- An integer has more digits than are read. -/
  | tooManyDigits (count : Nat)
  deriving DecidableEq, Repr

/-! ## Numbers -/

def spanDigits (text : List Char) : List Char × List Char :=
  (text.takeWhile Char.isDigit, text.dropWhile Char.isDigit)

def readWhole : List Char -> Option (List Char × List Char)
  | '0' :: rest => some (['0'], rest)
  | c :: rest => if c.isDigit then some (spanDigits (c :: rest)) else none
  | [] => none

def readPoint : List Char -> Option (List Char × List Char)
  | '.' :: rest =>
    if (spanDigits rest).1.isEmpty then none else some (spanDigits rest)
  | _ => none

def readPower : List Char -> Option (Int × List Char)
  | mark :: rest =>
    if mark = 'e' ∨ mark = 'E' then
      let (negative, body) := splitSign rest
      let (digits, after) := spanDigits body
      if digits.isEmpty then none
      else some (if negative then -(digitsValue digits : Int) else digitsValue digits, after)
    else none
  | [] => none

def isNumeralChar (c : Char) : Bool :=
  c.isDigit || ['-', '+', '.', 'e', 'E'].contains c

def hexValue? (c : Char) : Option Nat :=
  if '0' ≤ c ∧ c ≤ '9' then some (c.toNat - 0x30)
  else if 'a' ≤ c ∧ c ≤ 'f' then some (c.toNat - 0x57)
  else if 'A' ≤ c ∧ c ≤ 'F' then some (c.toNat - 0x37)
  else none

end Json

namespace WideJson

open Json

def readUnsigned (negative : Bool) (text : List Char) :
    Except ReadError (WideJson × List Char) :=
  match readWhole text with
  | none => .error .malformed
  | some (whole, afterWhole) =>
    match readPoint afterWhole, readPower afterWhole with
    | none, none =>
      if digitLimit < whole.length then .error (.tooManyDigits whole.length)
      else
        .ok (.int (if negative then -(digitsValue whole : Int) else digitsValue whole), afterWhole)
    | none, some (power, after) =>
      .ok (.float (.ofDecimal negative (digitsValue whole) power), after)
    | some (fraction, afterFraction), _ =>
      let (power, after) := (readPower afterFraction).getD (0, afterFraction)
      .ok (.float (.ofDecimal negative (digitsValue (whole ++ fraction))
        (power - fraction.length)), after)

def readNumeral : List Char -> Except ReadError (WideJson × List Char)
  | '-' :: rest => readUnsigned true rest
  | text => readUnsigned false text

def skipSpace : WideText -> WideText
  | .char ' ' :: rest => skipSpace rest
  | .char '\t' :: rest => skipSpace rest
  | .char '\n' :: rest => skipSpace rest
  | .char '\r' :: rest => skipSpace rest
  | text => text

def spanNumber : WideText -> List Char × WideText
  | .char c :: rest =>
    if isNumeralChar c then
      let (run, after) := spanNumber rest
      (c :: run, after)
    else ([], .char c :: rest)
  | text => ([], text)

def readNumber (text : WideText) : Except ReadError (WideJson × WideText) :=
  let (run, after) := spanNumber text
  (readNumeral run).map fun (value, rest) => (value, wide rest ++ after)

/-! ## Strings -/

def readHex4 : WideText -> Option (Nat × WideText)
  | .char a :: .char b :: .char c :: .char d :: rest => do
    let a ← hexValue? a
    let b ← hexValue? b
    let c ← hexValue? c
    let d ← hexValue? d
    some (((a * 16 + b) * 16 + c) * 16 + d, rest)
  | _ => none

/-- The code point of an escape by number; two escapes of one pair make one character. -/
def readCodeEscape (text : WideText) : Option (CodePoint × WideText) :=
  match readHex4 text with
  | none => none
  | some (high, rest) =>
    if 0xD800 ≤ high ∧ high ≤ 0xDBFF then
      match rest with
      | .char '\x5c' :: .char 'u' :: more =>
        match readHex4 more with
        | some (low, after) =>
          if 0xDC00 ≤ low ∧ low ≤ 0xDFFF then some (.char (pairChar high low), after)
          else some (.ofNat high, rest)
        | none => some (.ofNat high, rest)
      | _ => some (.ofNat high, rest)
    else some (.ofNat high, rest)

def readEscape : WideText -> Option (CodePoint × WideText)
  | .char '\x22' :: rest => some (.char '\x22', rest)
  | .char '\x5c' :: rest => some (.char '\x5c', rest)
  | .char '/' :: rest => some (.char '/', rest)
  | .char 'b' :: rest => some (.char '\x08', rest)
  | .char 'f' :: rest => some (.char '\x0c', rest)
  | .char 'n' :: rest => some (.char '\n', rest)
  | .char 'r' :: rest => some (.char '\r', rest)
  | .char 't' :: rest => some (.char '\t', rest)
  | .char 'u' :: rest => readCodeEscape rest
  | _ => none

/-- The rest of a string whose code points read so far are given in reverse. -/
def readStringAfter (done : WideText) : Nat -> WideText -> Except ReadError (WideText × WideText)
  | 0, _ => .error .malformed
  | _ + 1, [] => .error .malformed
  | fuel + 1, .surrogate place :: rest => readStringAfter (.surrogate place :: done) fuel rest
  | fuel + 1, .char c :: rest =>
    if c = '\x22' then .ok (done.reverse, rest)
    else if c = '\x5c' then
      match readEscape rest with
      | some (point, after) => readStringAfter (point :: done) fuel after
      | none => .error .malformed
    else if c.toNat < 0x20 then .error .malformed
    else readStringAfter (.char c :: done) fuel rest

def readString (fuel : Nat) (text : WideText) : Except ReadError (WideText × WideText) :=
  readStringAfter [] fuel text

/-! ## Values -/

def readName? : WideText -> Option (WideJson × WideText)
  | .char 'n' :: .char 'u' :: .char 'l' :: .char 'l' :: rest => some (.null, rest)
  | .char 't' :: .char 'r' :: .char 'u' :: .char 'e' :: rest => some (.bool true, rest)
  | .char 'f' :: .char 'a' :: .char 'l' :: .char 's' :: .char 'e' :: rest =>
    some (.bool false, rest)
  | .char 'N' :: .char 'a' :: .char 'N' :: rest => some (.float .nan, rest)
  | .char 'I' :: .char 'n' :: .char 'f' :: .char 'i' :: .char 'n' :: .char 'i' :: .char 't' ::
      .char 'y' :: rest => some (.float .infinity, rest)
  | .char '-' :: .char 'I' :: .char 'n' :: .char 'f' :: .char 'i' :: .char 'n' :: .char 'i' ::
      .char 't' :: .char 'y' :: rest => some (.float (.signed true .infinite), rest)
  | _ => none

def readScalar (text : WideText) : Except ReadError (WideJson × WideText) :=
  match readName? text with
  | some read => .ok read
  | none => readNumber text

mutual

/-- A value; every step of the reader spends one unit of fuel.  A step into an array or an object,
or on to its next part, costs no more than the code points that this needs, so that the length of a
text is fuel enough for it. -/
def readValue : Nat -> WideText -> Except ReadError (WideJson × WideText)
  | 0, _ => .error .malformed
  | fuel + 1, text =>
    match text with
    | .char '\x22' :: rest => do
      let (value, after) ← readString fuel rest
      .ok (.string value, after)
    | .char '[' :: rest =>
      match skipSpace rest with
      | .char ']' :: after => .ok (.array [], after)
      | items => do
        let (items, after) ← readItems fuel items
        .ok (.array items, after)
    | .char '\x7b' :: rest =>
      match skipSpace rest with
      | .char '\x7d' :: after => .ok (.object [], after)
      | members => do
        let (members, after) ← readMembers fuel [] members
        .ok (.object members, after)
    | text => readScalar text

def readItems : Nat -> WideText -> Except ReadError (List WideJson × WideText)
  | 0, _ => .error .malformed
  | fuel + 1, text => do
    let (item, after) ← readValue fuel text
    match skipSpace after with
    | .char ',' :: rest => do
      let (items, after) ← readItems fuel (skipSpace rest)
      .ok (item :: items, after)
    | .char ']' :: rest => .ok ([item], rest)
    | _ => .error .malformed

def readMembers : Nat -> List (WideText × WideJson) -> WideText ->
    Except ReadError (List (WideText × WideJson) × WideText)
  | 0, _, _ => .error .malformed
  | fuel + 1, done, text =>
    match text with
    | .char '\x22' :: rest => do
      let (name, afterName) ← readString fuel rest
      match skipSpace afterName with
      | .char ':' :: rest => do
        let (value, after) ← readValue fuel (skipSpace rest)
        let members := Document.putMember name value done
        match skipSpace after with
        | .char ',' :: rest => readMembers fuel members (skipSpace rest)
        | .char '\x7d' :: rest => .ok (members, rest)
        | _ => .error .malformed
      | _ => .error .malformed
    | _ => .error .malformed

end

def read (text : WideText) : Except ReadError WideJson := do
  let (value, after) ← readValue (text.length + 1) (skipSpace text)
  if (skipSpace after).isEmpty then .ok value else .error .malformed

end WideJson

namespace Json

def read (text : List Char) : Except ReadError Json :=
  (WideJson.read (Text.wide text)).map WideJson.shown

def ofText (text : String) : Except ReadError Json :=
  read text.toList

end Json

end CatalogSearch
