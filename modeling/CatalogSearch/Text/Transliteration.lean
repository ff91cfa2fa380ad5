import CatalogSearch.Text.Blank

/-!
# Transliteration and normal form

A text is transliterated to ASCII character by character, put in lower case, and every run of
other characters than letters, digits and spaces becomes a space.  What is left is a list of
words over the letters a to z and the digits, joined by single spaces.  The spelling of a
character is a parameter; `asciiSpelling` is an instance to run with, which covers some scripts
and leaves out the others.
-/

namespace CatalogSearch.Text

def latinSpellings : List String := [
  " ", "!", "C/", "PS", "$?", "Y=", "|", "SS", "\"", "(c)", "a", "<<", "!", "", "(r)", "-", "deg",
  "+-", "2", "3", "'", "u", "P", "*", ",", "1", "o", ">>", " 1/4", " 1/2", " 3/4", "?", "A", "A",
  "A", "A", "A", "A", "AE", "C", "E", "E", "E", "E", "I", "I", "I", "I", "D", "N", "O", "O", "O",
  "O", "O", "x", "O", "U", "U", "U", "U", "Y", "Th", "ss", "a", "a", "a", "a", "a", "a", "ae",
  "c", "e", "e", "e", "e", "i", "i", "i", "i", "d", "n", "o", "o", "o", "o", "o", "/", "o", "u",
  "u", "u", "u", "y", "th", "y", "A", "a", "A", "a", "A", "a", "C", "c", "C", "c", "C", "c", "C",
  "c", "D", "d", "D", "d", "E", "e", "E", "e", "E", "e", "E", "e", "E", "e", "G", "g", "G", "g",
  "G", "g", "G", "g", "H", "h", "H", "h", "I", "i", "I", "i", "I", "i", "I", "i", "I", "i", "IJ",
  "ij", "J", "j", "K", "k", "k", "L", "l", "L", "l", "L", "l", "L", "l", "L", "l", "N", "n", "N",
  "n", "N", "n", "'n", "NG", "ng", "O", "o", "O", "o", "O", "o", "OE", "oe", "R", "r", "R", "r",
  "R", "r", "S", "s", "S", "s", "S", "s", "S", "s", "T", "t", "T", "t", "T", "t", "U", "u", "U",
  "u", "U", "u", "U", "u", "U", "u", "U", "u", "W", "w", "Y", "y", "Y", "Z", "z", "Z", "z", "Z",
  "z", "s"]

def otherSpellings : List (Nat × String) := [
  (0x1C4, "DZ"), (0x1C5, "Dz"), (0x261, "g"), (0x38A, "I"), (0x39F, "O"), (0x3A3, "S"),
  (0x3A5, "U"), (0x3A6, "Ph"), (0x3AF, "i"), (0x3BF, "o"), (0x3C2, "s"), (0x3C3, "s"),
  (0x3C5, "u"), (0x3C6, "ph"), (0x628, "b"), (0x62D, "H"), (0x631, "r"), (0x645, "m"),
  (0x660, "0"), (0x661, "1"), (0x662, "2"), (0x663, "3"), (0x665, "5"), (0x966, "0"),
  (0x967, "1"), (0x1E9E, "SS"), (0x2003, " "), (0x200B, " "), (0x2011, "-"), (0x2013, "-"),
  (0x2014, "--"), (0x2018, "'"), (0x2019, "'"), (0x201C, "\""), (0x201D, "\""), (0x2026, "..."),
  (0x2028, "\n"), (0x20AC, "EUR"), (0x2122, "(tm)"), (0x212A, "K"), (0x2212, "-"), (0x2264, "<="),
  (0x2460, "1"), (0x2461, "2"), (0x3000, " "), (0x4E94, "Wu "), (0x65E5, "Ri "), (0x672C, "Ben "),
  (0x8A9E, "Yu "), (0xFB01, "fi"), (0xFF10, "0"), (0xFF11, "1"), (0xFF12, "2"), (0xFF15, "5"),
  (0xFF1A, ":"), (0xFF1E, ">"), (0xFF21, "A"), (0xFF22, "B"), (0xFF23, "C"), (0xFF24, "D"),
  (0xFF25, "E"), (0xFF2E, "N"), (0xFF32, "R"), (0xFF35, "U"), (0xFFEE, "O")]

/-- The ASCII spelling of a character: itself for ASCII, nothing for a character without one. -/
def asciiSpelling (c : Char) : List Char :=
  if c.toNat < 0x80 then [c]
  else if c.toNat < 0xA0 then []
  else if c.toNat < 0x180 then (latinSpellings.getD (c.toNat - 0xA0) "").toList
  else ((otherSpellings.lookup c.toNat).getD "").toList

def isPlain (c : Char) : Bool :=
  c.isDigit || ('a' ≤ c && c ≤ 'z')

def plainOrSpace (c : Char) : Char :=
  if isPlain c.toLower then c.toLower else ' '

/-- The words of a text in normal form, where every character has an ASCII spelling. -/
def plainWordsBy (spell : Char -> List Char) (text : List Char) : List (List Char) :=
  words ((text.flatMap spell).map plainOrSpace)

def normalizeBy (spell : Char -> List Char) (text : List Char) : List Char :=
  joinWords (plainWordsBy spell text)

def normalize (text : List Char) : List Char :=
  normalizeBy asciiSpelling text

end CatalogSearch.Text
