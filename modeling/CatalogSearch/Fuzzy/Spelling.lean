import CatalogSearch.Text.BaseLetter
import CatalogSearch.Text.UpperCase

/-!
# Spellings of words

A word as the phonetic rules see it: capital letters without marks, with nothing but fillers
before the first and after the last.  Rules ask which letters stand at a place relative to the
one they are about.  They belong to one way to code sounds, which a matcher can exchange for
any other.
-/

namespace CatalogSearch

open Text

structure Spelling where
  letters : Array Char
  deriving Repr

namespace Spelling

def soften (c : Char) : Char :=
  if c.toNat = 0xC7 ∨ c.toNat = 0xE7 then 's' else c

def ofWord (word : List Char) : Spelling :=
  ⟨(upper (stripMarks (word.map soften))).toArray⟩

def last (w : Spelling) : Int :=
  w.letters.size - 1

def letter (w : Spelling) (place : Int) : Char :=
  if place < 0 then '-' else w.letters.getD place.toNat '-'

def slice (w : Spelling) (place : Int) : Nat -> List Char
  | 0 => []
  | count + 1 => w.letter place :: w.slice (place + 1) count

def reads (w : Spelling) (place : Int) (texts : List String) : Bool :=
  texts.any fun text => w.slice place text.length == text.toList

def isVowel (w : Spelling) (place : Int) : Bool :=
  w.reads place ["A", "E", "I", "O", "U", "Y"]

def holds (w : Spelling) (text : String) : Bool :=
  (List.range w.letters.size).any fun place => w.reads place [text]

def isSlavoGermanic (w : Spelling) : Bool :=
  w.holds "W" || w.holds "K" || w.holds "CZ" || w.holds "WITZ"

end Spelling

end CatalogSearch
