/-!
# The SHA-1 digest

A message is padded to whole blocks of sixteen words, and each block is folded into a state of
five words by eighty rounds.
-/

namespace CatalogSearch.Sha1

structure State where
  a : UInt32
  b : UInt32
  c : UInt32
  d : UInt32
  e : UInt32
  deriving DecidableEq, Repr

def initial : State :=
  ⟨0x67452301, 0xEFCDAB89, 0x98BADCFE, 0x10325476, 0xC3D2E1F0⟩

def rotate (word : UInt32) (amount : UInt32) : UInt32 :=
  (word <<< amount) ||| (word >>> (32 - amount))

def bytesOf : Nat -> Nat -> List UInt8
  | 0, _ => []
  | count + 1, n => bytesOf count (n / 256) ++ [UInt8.ofNat (n % 256)]

/-- A message with a set bit, zeros up to eight bytes before a block's end, and its length in bits.
-/
def pad (message : List UInt8) : List UInt8 :=
  let zeros := (119 - message.length % 64) % 64
  message ++ 0x80 :: List.replicate zeros 0 ++ bytesOf 8 (8 * message.length)

def word (a b c d : UInt8) : UInt32 :=
  (a.toUInt32 <<< 24) ||| (b.toUInt32 <<< 16) ||| (c.toUInt32 <<< 8) ||| d.toUInt32

def wordsOf : List UInt8 -> List UInt32
  | a :: b :: c :: d :: rest => word a b c d :: wordsOf rest
  | _ => []

def expand : Nat -> List UInt32 -> List UInt32
  | 0, words => words
  | count + 1, words =>
    let back := fun n => words.getD (n - 1) 0
    expand count (rotate (back 3 ^^^ back 8 ^^^ back 14 ^^^ back 16) 1 :: words)

def mixing (round : Nat) (b c d : UInt32) : UInt32 × UInt32 :=
  if round < 20 then ((b &&& c) ||| (~~~b &&& d), 0x5A827999)
  else if round < 40 then (b ^^^ c ^^^ d, 0x6ED9EBA1)
  else if round < 60 then ((b &&& c) ||| (b &&& d) ||| (c &&& d), 0x8F1BBCDC)
  else (b ^^^ c ^^^ d, 0xCA62C1D6)

def rounds (round : Nat) (s : State) : List UInt32 -> State
  | [] => s
  | w :: rest =>
    let (mix, constant) := mixing round s.b s.c s.d
    rounds (round + 1) ⟨rotate s.a 5 + mix + s.e + constant + w, s.a, rotate s.b 30, s.c, s.d⟩ rest

def absorb (s : State) (block : List UInt32) : State :=
  let t := rounds 0 s (expand 64 block.reverse).reverse
  ⟨s.a + t.a, s.b + t.b, s.c + t.c, s.d + t.d, s.e + t.e⟩

def absorbAll (s : State) : Nat -> List UInt32 -> State
  | 0, _ => s
  | count + 1, words => absorbAll (absorb s (words.take 16)) count (words.drop 16)

def digest (message : List UInt8) : List UInt32 :=
  let words := wordsOf (pad message)
  let s := absorbAll initial (words.length / 16) words
  [s.a, s.b, s.c, s.d, s.e]

end CatalogSearch.Sha1
