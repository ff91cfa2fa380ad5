import CatalogSearch.Text.CodePoint

/-!
# Texts in bytes

Stored documents are bytes.  They are read as UTF-8, or as UTF-16 or UTF-32 where a byte order
mark or the zero bytes around the first characters show it, and surrogates may stand alone in
them.  A second reader of UTF-8 never fails: it puts the replacement character for every part
that belongs to no character.  A third one reads ahead, and forgives a character that is cut
off at the end.
-/

namespace CatalogSearch.Text

/-! ## UTF-8 -/

def utf8Shape (surrogates : Bool) (lead : Nat) : Option (Nat × Nat × Nat) :=
  if 0xC2 ≤ lead ∧ lead ≤ 0xDF then some (0x80, 0xBF, 0)
  else if lead = 0xE0 then some (0xA0, 0xBF, 1)
  else if lead = 0xED then some (0x80, if surrogates then 0xBF else 0x9F, 1)
  else if 0xE1 ≤ lead ∧ lead ≤ 0xEF then some (0x80, 0xBF, 1)
  else if lead = 0xF0 then some (0x90, 0xBF, 2)
  else if lead = 0xF4 then some (0x80, 0x8F, 2)
  else if 0xF1 ≤ lead ∧ lead ≤ 0xF3 then some (0x80, 0xBF, 2)
  else none

def continuationCount : Nat -> List UInt8 -> Nat
  | limit + 1, byte :: rest =>
    if 0x80 ≤ byte.toNat ∧ byte.toNat ≤ 0xBF then continuationCount limit rest + 1 else 0
  | _, _ => 0

def continuationValue (bits : Nat) (bytes : List UInt8) : Nat :=
  bytes.foldl (fun value byte => value * 64 + byte.toNat % 64) bits

/-- The code that bytes start with and how many more bytes than one it takes, or else how many more
than one belong to its start. -/
def firstCode (surrogates : Bool) (lead : UInt8) (rest : List UInt8) : Except Nat (Nat × Nat) :=
  if lead.toNat < 0x80 then .ok (lead.toNat, 0)
  else match utf8Shape surrogates lead.toNat, rest with
    | some (low, high, more), second :: rest' =>
      if low ≤ second.toNat ∧ second.toNat ≤ high then
        let count := continuationCount more rest'
        if count = more then
          let bits := lead.toNat % (if more = 0 then 32 else if more = 1 then 16 else 8)
          .ok (continuationValue bits (second :: rest'.take more), more + 1)
        else .error (count + 1)
      else .error 0
    | _, _ => .error 0

def decodeLossyFrom (covered : Nat) : List UInt8 -> List Char
  | [] => []
  | byte :: rest =>
    match covered with
    | left + 1 => decodeLossyFrom left rest
    | 0 =>
      match firstCode false byte rest with
      | .ok (code, more) => Char.ofNat code :: decodeLossyFrom more rest
      | .error more => Char.ofNat 0xFFFD :: decodeLossyFrom more rest

def decodeLossy (bytes : List UInt8) : List Char :=
  decodeLossyFrom 0 bytes

def decodeWideFrom (covered : Nat) : List UInt8 -> Option WideText
  | [] => some []
  | byte :: rest =>
    match covered with
    | left + 1 => decodeWideFrom left rest
    | 0 =>
      match firstCode true byte rest with
      | .ok (code, more) => (decodeWideFrom more rest).map (CodePoint.ofNat code :: ·)
      | .error _ => none

def decode8 (bytes : ByteArray) : Option WideText :=
  match String.fromUTF8? bytes with
  | some text => some (wide text.toList)
  | none => decodeWideFrom 0 bytes.toList

/-! ## Reading ahead -/

/-- Whether bytes stand for characters, as far as can be seen where the last one may be cut off. -/
def decodesSoFarFrom (covered : Nat) : List UInt8 -> Bool
  | [] => true
  | byte :: rest =>
    match covered with
    | left + 1 => decodesSoFarFrom left rest
    | 0 =>
      match firstCode false byte rest with
      | .ok (_, more) => decodesSoFarFrom more rest
      | .error more => (utf8Shape false byte.toNat).isSome && rest.length == more

def decodesSoFar (bytes : List UInt8) : Bool :=
  decodesSoFarFrom 0 bytes

def announcedCount (lead : UInt8) : Nat :=
  ((utf8Shape false lead.toNat).map fun (_, _, more) => more + 1).getD 0

/-- The place of the byte that shows the end of the first line: a line feed, or the end of whatever
follows a carriage return. -/
def firstLineEnd? : List UInt8 -> Option Nat
  | [] => none
  | byte :: rest =>
    if byte = 0x0A then some 0
    else if byte = 0x0D then rest.head?.map fun next => announcedCount next + 1
    else (firstLineEnd? rest).map (· + 1)

/-! ## Wider units -/

def units16 (bigEndian : Bool) : List UInt8 -> Option (List Nat)
  | [] => some []
  | a :: b :: rest => (units16 bigEndian rest).map fun units =>
    (if bigEndian then a.toNat * 256 + b.toNat else b.toNat * 256 + a.toNat) :: units
  | [_] => none

def units32 (bigEndian : Bool) : List UInt8 -> Option (List Nat)
  | [] => some []
  | a :: b :: c :: d :: rest => (units32 bigEndian rest).map fun units =>
    (if bigEndian then ((a.toNat * 256 + b.toNat) * 256 + c.toNat) * 256 + d.toNat
    else ((d.toNat * 256 + c.toNat) * 256 + b.toNat) * 256 + a.toNat) :: units
  | _ => none

def pointsOfUnits16 : List Nat -> WideText
  | high :: low :: rest =>
    if 0xD800 ≤ high ∧ high ≤ 0xDBFF ∧ 0xDC00 ≤ low ∧ low ≤ 0xDFFF then
      .char (pairChar high low) :: pointsOfUnits16 rest
    else .ofNat high :: pointsOfUnits16 (low :: rest)
  | [unit] => [.ofNat unit]
  | [] => []

def decode16 (bigEndian : Bool) (bytes : List UInt8) : Option WideText :=
  (units16 bigEndian bytes).map pointsOfUnits16

/-- The code points of UTF-32 units; here two surrogates make no character. -/
def decode32 (bigEndian : Bool) (bytes : List UInt8) : Option WideText :=
  (units32 bigEndian bytes).bind fun units =>
    if units.all (· ≤ 0x10FFFF) then some (units.map .ofNat) else none

/-! ## Documents -/

inductive Encoding
  | utf8
  | utf8Marked
  | utf16 (bigEndian : Bool)
  | utf16Marked (bigEndian : Bool)
  | utf32 (bigEndian : Bool)
  | utf32Marked (bigEndian : Bool)
  deriving DecidableEq, Repr

def Encoding.ofZeros : List UInt8 -> Encoding
  | a :: b :: c :: d :: _ =>
    if a = 0 then if b = 0 then utf32 true else utf16 true
    else if b = 0 then if c = 0 ∧ d = 0 then utf32 false else utf16 false
    else utf8
  | [a, b] => if a = 0 then utf16 true else if b = 0 then utf16 false else utf8
  | _ => utf8

def Encoding.ofBytes : List UInt8 -> Encoding
  | 0x00 :: 0x00 :: 0xFE :: 0xFF :: _ => utf32Marked true
  | 0xFF :: 0xFE :: 0x00 :: 0x00 :: _ => utf32Marked false
  | 0xFE :: 0xFF :: _ => utf16Marked true
  | 0xFF :: 0xFE :: _ => utf16Marked false
  | 0xEF :: 0xBB :: 0xBF :: _ => utf8Marked
  | bytes => ofZeros bytes

/-- The code points of a document in whatever encoding it shows, without its mark. -/
def decodeDocument (bytes : ByteArray) : Option WideText :=
  match Encoding.ofBytes bytes.toList with
  | .utf8 => decode8 bytes
  | .utf8Marked => (decode8 bytes).map (·.drop 1)
  | .utf16 bigEndian => decode16 bigEndian bytes.toList
  | .utf16Marked bigEndian => (decode16 bigEndian bytes.toList).map (·.drop 1)
  | .utf32 bigEndian => decode32 bigEndian bytes.toList
  | .utf32Marked bigEndian => (decode32 bigEndian bytes.toList).map (·.drop 1)

end CatalogSearch.Text
