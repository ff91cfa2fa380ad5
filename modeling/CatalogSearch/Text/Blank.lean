/-!
# White space and words

White space separates words.  The words of a text, the text without white space at its ends,
and the text with its words joined by single spaces are all read off the same notion of a
blank.
-/

namespace CatalogSearch.Text

def isBlank (c : Char) : Bool :=
  let code := c.toNat
  (0x09 ≤ code && code ≤ 0x0D) || (0x1C ≤ code && code ≤ 0x20) || code == 0x85 || code == 0xA0 ||
    code == 0x1680 || (0x2000 ≤ code && code ≤ 0x200A) || code == 0x2028 || code == 0x2029 ||
    code == 0x202F || code == 0x205F || code == 0x3000

/-! ## Words -/

/-- The words that remain after the characters of a word in progress, given in reverse. -/
def wordsAfter (current : List Char) : List Char -> List (List Char)
  | [] => if current.isEmpty then [] else [current.reverse]
  | c :: rest =>
    if isBlank c then
      if current.isEmpty then wordsAfter [] rest else current.reverse :: wordsAfter [] rest
    else wordsAfter (c :: current) rest

def words (text : List Char) : List (List Char) :=
  wordsAfter [] text

@[simp] theorem words_nil : words [] = [] := rfl

def joinWords : List (List Char) -> List Char
  | [] => []
  | [word] => word
  | word :: rest => word ++ ' ' :: joinWords rest

@[simp] theorem joinWords_nil : joinWords [] = [] := rfl

@[simp] theorem joinWords_singleton (word : List Char) : joinWords [word] = word := rfl

theorem joinWords_cons_cons (word next : List Char) (rest : List (List Char)) :
    joinWords (word :: next :: rest) = word ++ ' ' :: joinWords (next :: rest) := rfl

def collapse (text : List Char) : List Char :=
  joinWords (words text)

/-! ## Ends of a text -/

def stripStart (text : List Char) : List Char :=
  text.dropWhile isBlank

def stripEnd (text : List Char) : List Char :=
  (text.reverse.dropWhile isBlank).reverse

def strip (text : List Char) : List Char :=
  stripEnd (stripStart text)

end CatalogSearch.Text
