import CatalogSearch.Text.Quoted

/-!
# Code points

A stored text may hold halves of surrogate pairs that stand alone.  They are no characters and
no bytes in UTF-8 stand for them, so that a text with one of them cannot be written.
-/

namespace CatalogSearch

/-- A character, or half of a surrogate pair by its place among all of them. -/
inductive CodePoint
  | char (value : Char)
  | surrogate (place : Fin 0x800)
  deriving DecidableEq, Repr

namespace CodePoint

def ofNat (code : Nat) : CodePoint :=
  if h : 0xD800 ≤ code ∧ code ≤ 0xDFFF then
    surrogate ⟨code - 0xD800, by omega⟩
  else char (Char.ofNat code)

def shown : CodePoint -> Char
  | char value => value
  | surrogate _ => Char.ofNat 0xFFFD

end CodePoint

/-- A text whose code points need not all be characters. -/
abbrev WideText := List CodePoint

/-- A run of surrogates in a text: the first of them, its place in the text and their number. -/
structure EncodeError where
  first : Fin 0x800
  place : Nat
  count : Nat
  deriving DecidableEq, Repr

def EncodeError.message (error : EncodeError) : String :=
  if error.count = 1 then
    "'utf-8' codec can't encode character '\x5cu" ++
      String.ofList (Text.hexDigits 4 (0xD800 + error.first.val)) ++
      s!"' in position {error.place}: surrogates not allowed"
  else
    s!"'utf-8' codec can't encode characters in position {error.place}-" ++
      s!"{error.place + error.count - 1}: surrogates not allowed"

namespace Text

def pairChar (high low : Nat) : Char :=
  Char.ofNat (0x10000 + (high - 0xD800) * 0x400 + (low - 0xDC00))

def wide (text : List Char) : WideText :=
  text.map .char

def shown (text : WideText) : List Char :=
  text.map CodePoint.shown

def surrogateCount : WideText -> Nat
  | .surrogate _ :: rest => surrogateCount rest + 1
  | _ => 0

def charactersFrom (place : Nat) : WideText -> Except EncodeError (List Char)
  | [] => .ok []
  | .char c :: rest => (charactersFrom (place + 1) rest).map (c :: ·)
  | .surrogate first :: rest => .error ⟨first, place, surrogateCount rest + 1⟩

def encode (text : WideText) : Except EncodeError ByteArray :=
  (charactersFrom 0 text).map fun characters => (String.ofList characters).toUTF8

@[simp] theorem wide_nil : wide [] = [] := rfl

@[simp] theorem wide_cons (c : Char) (text : List Char) : wide (c :: text) = .char c :: wide text :=
  rfl

@[simp] theorem length_wide (text : List Char) : (wide text).length = text.length :=
  List.length_map _

@[simp] theorem shown_wide (text : List Char) : shown (wide text) = text := by
  rw [wide, shown, List.map_map]
  exact List.map_id text

theorem charactersFrom_wide (place : Nat) (text : List Char) :
    charactersFrom place (wide text) = .ok text := by
  induction text generalizing place with
  | nil => rfl
  | cons c text ih =>
      rw [wide_cons, charactersFrom, ih]
      rfl

theorem encode_wide (text : List Char) :
    encode (wide text) = .ok (String.ofList text).toUTF8 := by
  rw [encode, charactersFrom_wide]
  rfl

end Text

end CatalogSearch
