import CatalogSearch.Text.Alphanumeric
import CatalogSearch.Text.Blank
import CatalogSearch.Text.Digit

/-!
# Patterns in a text

A pattern looks at a place of a text, knows the character before it, and covers the characters
it recognises from there on.  Each pattern has one reading at a place: repetitions cover as
much as they can and the first alternative that fits counts.

A search takes the leftmost place where a pattern fits; blanking replaces every part that a
pattern covers, from left to right, by a space.
-/

namespace CatalogSearch

open Text

/-- What a pattern recognised: a value, the text covered, and the text that follows. -/
structure Hit (α : Type) where
  value : α
  text : List Char
  rest : List Char

/-- A pattern, given the character before the place and the text from there on. -/
def Pattern (α : Type) := Option Char -> List Char -> Option (Hit α)

namespace Pattern

variable {α β : Type}

def succeed (value : α) : Pattern α := fun _ text => some ⟨value, [], text⟩

def followedBy (first : Pattern α) (next : α -> Pattern β) : Pattern β := fun prev text =>
  match first prev text with
  | none => none
  | some hit =>
    match next hit.value (hit.text.getLast?.or prev) hit.rest with
    | none => none
    | some hit' => some ⟨hit'.value, hit.text ++ hit'.text, hit'.rest⟩

instance : Monad Pattern where
  pure := succeed
  bind := followedBy

/-! ## Single characters -/

def charWhere (allowed : Char -> Bool) : Pattern Char := fun _ text =>
  match text with
  | c :: rest => if allowed c then some ⟨c, [c], rest⟩ else none
  | [] => none

/-- Whether a character is a letter of either case, given in lower case.  The long s, the Kelvin
sign and the dotted and dotless i count as the letters that they are cased forms of. -/
def sameLetter (letter c : Char) : Bool :=
  c == letter || c.toLower == letter || (letter == 's' && c.toNat == 0x17F) ||
    (letter == 'k' && c.toNat == 0x212A) ||
    (letter == 'i' && (c.toNat == 0x130 || c.toNat == 0x131))

def letters : List Char -> Pattern Unit
  | [] => succeed ()
  | letter :: rest => followedBy (charWhere (sameLetter letter)) fun _ => letters rest

def word (text : String) : Pattern Unit :=
  letters text.toList

/-! ## Repetition and choice -/

def manyWhere (allowed : Char -> Bool) : Pattern (List Char) := fun _ text =>
  some ⟨text.takeWhile allowed, text.takeWhile allowed, text.dropWhile allowed⟩

def someWhere (allowed : Char -> Bool) : Pattern (List Char) := fun prev text =>
  if (text.takeWhile allowed).isEmpty then none else manyWhere allowed prev text

def blanks : Pattern Unit :=
  followedBy (manyWhere isBlank) fun _ => succeed ()

def someBlanks : Pattern Unit :=
  followedBy (someWhere isBlank) fun _ => succeed ()

def orElse (first second : Pattern α) : Pattern α := fun prev text =>
  (first prev text).or (second prev text)

def anyOf : List (Pattern α) -> Pattern α
  | [] => fun _ _ => none
  | pattern :: rest => orElse pattern (anyOf rest)

def perhaps (pattern : Pattern α) : Pattern (Option α) :=
  orElse (followedBy pattern fun value => succeed (some value)) (succeed none)

/-! ## Places -/

def atStart : Pattern Unit := fun prev text =>
  if prev.isNone then some ⟨(), [], text⟩ else none

/-- A place between a word character and none. -/
def boundary : Pattern Unit := fun prev text =>
  if prev.any isWordChar != text.head?.any isWordChar then some ⟨(), [], text⟩ else none

def boundedWords : List String -> Pattern Unit
  | [] => boundary
  | first :: rest =>
    followedBy boundary fun _ => followedBy (word first) fun _ => more rest
where
  /-- The words after the first one and the boundary after them. -/
  more : List String -> Pattern Unit
    | [] => boundary
    | next :: rest =>
      followedBy someBlanks fun _ => followedBy (word next) fun _ => more rest

/-! ## Search -/

structure Match (α : Type) where
  value : α
  before : List Char
  text : List Char
  after : List Char

def searchFrom (pattern : Pattern α) (prev : Option Char) : List Char -> Option (Match α)
  | [] => (pattern prev []).map fun hit => ⟨hit.value, [], hit.text, hit.rest⟩
  | c :: rest =>
    match pattern prev (c :: rest) with
    | some hit => some ⟨hit.value, [], hit.text, hit.rest⟩
    | none =>
      (searchFrom pattern (some c) rest).map fun found =>
        ⟨found.value, c :: found.before, found.text, found.after⟩

def search (pattern : Pattern α) (text : List Char) : Option (Match α) :=
  searchFrom pattern none text

/-- A text with every part that a pattern covers replaced by a space, after `covered` more
characters of a part that was replaced already. -/
def blankFrom (pattern : Pattern α) (prev : Option Char) (covered : Nat) : List Char -> List Char
  | [] => []
  | c :: rest =>
    match covered with
    | left + 1 => blankFrom pattern (some c) left rest
    | 0 =>
      match pattern prev (c :: rest) with
      | some ⟨_, _ :: text, _⟩ => ' ' :: blankFrom pattern (some c) text.length rest
      | _ => c :: blankFrom pattern (some c) 0 rest

def blankAll (pattern : Pattern α) (text : List Char) : List Char :=
  blankFrom pattern none 0 text

end Pattern

end CatalogSearch
