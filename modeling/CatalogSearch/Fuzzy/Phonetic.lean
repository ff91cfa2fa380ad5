import CatalogSearch.Fuzzy.Spelling
import CatalogSearch.Text.Blank

/-!
# Phonetic codes

Each letter of a word adds to a primary and to a secondary code, which differ where a spelling
has two likely sounds, and says how many letters it accounts for.  A character for which no
rule decides repeats the step before it.  Words that sound alike share a code.  This is one way
to code sounds that a matcher can run with; what is said of matchers holds for any other.
-/

namespace CatalogSearch

/-- What a letter adds to the two codes, and how many letters it accounts for. -/
structure PhoneticStep where
  primary : String
  secondary : String
  advance : Nat
  deriving DecidableEq, Repr

namespace PhoneticStep

def both (code : String) (advance : Nat) : PhoneticStep :=
  ⟨code, code, advance⟩

def silent (advance : Nat) : PhoneticStep :=
  ⟨"", "", advance⟩

end PhoneticStep

namespace Spelling

open PhoneticStep

/-! ## Rules for single letters -/

/-- A consonant with one sound; a second one of the given letters is a part of it. -/
def plainStep (w : Spelling) (i : Int) (code : String) (doubles : List String) : PhoneticStep :=
  both code (if w.reads (i + 1) doubles then 2 else 1)

def vowelStep (i : Int) : PhoneticStep :=
  if i = 0 then both "A" 1 else silent 1

def stepCH (w : Spelling) (i : Int) : PhoneticStep :=
  if 0 < i && w.reads i ["CHAE"] then ⟨"K", "X", 2⟩
  else if i = 0 && (w.reads 1 ["HARAC", "HARIS", "HOR", "HYM", "HIA", "HEM"]) &&
      !w.reads 0 ["CHORE"] then both "K" 2
  else if w.reads 0 ["SCH"] || w.reads (i - 2) ["ORCHES", "ARCHIT", "ORCHID"] ||
      w.reads (i + 2) ["T", "S"] ||
      ((w.reads (i - 1) ["A", "O", "U", "E"] || i = 0) &&
        w.reads (i + 2) ["L", "R", "N", "M", "B", "H", "F", "V", "W"]) then both "K" 2
  else if 0 < i then if w.reads 0 ["MC"] then both "K" 2 else ⟨"X", "K", 2⟩
  else both "X" 2

def stepCC (w : Spelling) (i : Int) : PhoneticStep :=
  if w.reads (i + 2) ["I", "E", "H"] && !w.reads (i + 2) ["HU"] then
    if (i = 1 && w.reads 0 ["A"]) || w.reads (i - 1) ["UCCEE", "UCCES"] then both "KS" 3
    else both "X" 3
  else both "K" 2

def stepC (w : Spelling) (i : Int) : PhoneticStep :=
  if 1 < i && !w.isVowel (i - 2) && w.reads (i - 1) ["ACH"] && !w.reads (i + 2) ["I"] &&
      (!w.reads (i + 2) ["E"] || w.reads (i - 2) ["BACHER", "MACHER"]) then both "K" 2
  else if i = 0 && w.reads 0 ["CAESAR"] then both "S" 2
  else if w.reads i ["CHIA"] then both "K" 2
  else if w.reads i ["CH"] then stepCH w i
  else if w.reads i ["CZ"] && !w.reads (i - 2) ["WICZ"] then ⟨"S", "X", 2⟩
  else if w.reads (i + 1) ["CIA"] then both "X" 3
  else if w.reads i ["CC"] && !(i = 1 && w.reads 0 ["M"]) then stepCC w i
  else if w.reads i ["CK", "CG", "CQ"] then both "K" 2
  else if w.reads i ["CIO", "CIE", "CIA"] then ⟨"S", "X", 2⟩
  else if w.reads i ["CI", "CE", "CY"] then both "S" 2
  else if w.reads (i + 1) ["C", "K", "Q"] && !w.reads (i + 1) ["CE", "CI"] then both "K" 2
  else both "K" 1

def stepD (w : Spelling) (i : Int) : PhoneticStep :=
  if w.reads i ["DG"] then if w.reads (i + 2) ["I", "E", "Y"] then both "J" 3 else both "TK" 2
  else plainStep w i "T" ["T", "D"]

/-- The sound of `GH`; some spellings leave it open. -/
def stepGH (w : Spelling) (i : Int) : Option PhoneticStep :=
  if 0 < i && !w.isVowel (i - 1) then some (both "K" 2)
  else if i < 3 then
    if i = 0 then some (if w.reads 2 ["I"] then both "J" 2 else both "K" 2) else none
  else if w.reads (i - 2) ["B", "H", "D"] || w.reads (i - 3) ["B", "H", "D"] ||
      (3 < i && w.reads (i - 4) ["B", "H"]) then some (silent 2)
  else if w.reads (i - 1) ["U"] && w.reads (i - 3) ["C", "G", "L", "R", "T"] then
    some (both "F" 2)
  else if !w.reads (i - 1) ["I"] then some (both "K" 2)
  else none

def stepGN (w : Spelling) (i : Int) : PhoneticStep :=
  if i = 1 && w.isVowel 0 && !w.isSlavoGermanic then ⟨"KN", "N", 2⟩
  else if !w.reads (i + 2) ["EY"] && !w.isSlavoGermanic then ⟨"N", "KN", 2⟩
  else both "KN" 2

def stepG (w : Spelling) (i : Int) : Option PhoneticStep :=
  if w.reads (i + 1) ["H"] then stepGH w i
  else if w.reads (i + 1) ["N"] then some (stepGN w i)
  else if w.reads (i + 1) ["LI"] && !w.isSlavoGermanic then some ⟨"KL", "L", 2⟩
  else if i = 0 && w.reads 1 ["Y", "ES", "EP", "EB", "EL", "EY", "IB", "IL", "IN", "IE", "EI",
      "ER"] then some ⟨"K", "J", 2⟩
  else if w.reads (i + 1) ["ER", "Y"] && !w.reads 0 ["DANGER", "RANGER", "MANGER"] &&
      !w.reads (i - 1) ["E", "I"] && !w.reads (i - 1) ["RGY", "OGY"] then some ⟨"K", "J", 2⟩
  else if w.reads (i + 1) ["E", "I", "Y"] || w.reads (i - 1) ["AGGI", "OGGI"] then
    some (if w.reads 0 ["SCH"] || w.reads (i + 1) ["ET"] then both "K" 2 else ⟨"J", "K", 2⟩)
  else some (plainStep w i "K" ["G"])

/-- The sound of `H`: heard between vowels, and before one at the start. -/
def stepH (w : Spelling) (i : Int) : PhoneticStep :=
  if (i = 0 || w.isVowel (i - 1)) && w.isVowel (i + 1) then both "H" 2 else silent 1

def stepJ (w : Spelling) (i : Int) : PhoneticStep :=
  let advance := if w.reads (i + 1) ["J"] then 2 else 1
  if w.reads i ["JOSE"] then ⟨"J", "H", advance⟩
  else if i = 0 then ⟨"J", "A", advance⟩
  else if w.isVowel (i - 1) && !w.isSlavoGermanic && w.reads (i + 1) ["A", "O"] then
    ⟨"J", "H", advance⟩
  else if i = w.last then ⟨"J", " ", advance⟩
  else if !w.reads (i + 1) ["L", "T", "K", "S", "N", "M", "B", "Z"] &&
      !w.reads (i - 1) ["S", "K", "L"] then both "J" advance
  else silent advance

def stepL (w : Spelling) (i : Int) : PhoneticStep :=
  if w.reads (i + 1) ["L"] &&
      ((i = w.last - 2 && w.reads (i - 1) ["ILLO", "ILLA", "ALLE"]) ||
        ((w.reads (w.last - 1) ["AS", "OS"] || w.reads w.last ["A", "O"]) &&
          w.reads (i - 1) ["ALLE"])) then ⟨"L", "", 2⟩
  else plainStep w i "L" ["L"]

def stepM (w : Spelling) (i : Int) : PhoneticStep :=
  if (w.reads (i + 1) ["UMB"] && (i + 1 = w.last || w.reads (i + 2) ["ER"])) ||
      w.reads (i + 1) ["M"] then both "M" 2
  else both "M" 1

def stepP (w : Spelling) (i : Int) : PhoneticStep :=
  if w.reads (i + 1) ["H"] then both "F" 2 else plainStep w i "P" ["P", "B"]

def stepR (w : Spelling) (i : Int) : PhoneticStep :=
  let advance := if w.reads (i + 1) ["R"] then 2 else 1
  if i = w.last && !w.isSlavoGermanic && w.reads (i - 2) ["IE"] &&
      !w.reads (i - 4) ["ME", "MA"] then ⟨"", "R", advance⟩
  else both "R" advance

def stepSC (w : Spelling) (i : Int) : PhoneticStep :=
  if w.reads (i + 2) ["H"] then
    if w.reads (i + 3) ["ER", "EN"] then ⟨"X", "SK", 3⟩
    else if w.reads (i + 3) ["OO", "UY", "ED", "EM"] then both "SK" 3
    else if i = 0 && !w.isVowel 3 && !w.reads 3 ["W"] then ⟨"X", "S", 3⟩
    else both "X" 3
  else if w.reads (i + 2) ["I", "E", "Y"] then both "S" 3
  else both "SK" 3

def stepS (w : Spelling) (i : Int) : PhoneticStep :=
  if w.reads (i - 1) ["ISL", "YSL"] then silent 1
  else if i = 0 && w.reads 0 ["SUGAR"] then ⟨"X", "S", 1⟩
  else if w.reads i ["SH"] then
    if w.reads (i + 1) ["HEIM", "HOEK", "HOLM", "HOLZ"] then both "S" 2 else both "X" 2
  else if w.reads i ["SIO", "SIA"] then
    if w.isSlavoGermanic then both "S" 3 else ⟨"S", "X", 3⟩
  else if w.reads (i + 1) ["Z"] then ⟨"S", "X", 2⟩
  else if i = 0 && w.reads 1 ["M", "N", "L", "W"] then ⟨"S", "X", 1⟩
  else if w.reads i ["SC"] then stepSC w i
  else if i = w.last && w.reads (i - 2) ["AI", "OI"] then ⟨"", "S", 1⟩
  else plainStep w i "S" ["S", "Z"]

def stepT (w : Spelling) (i : Int) : PhoneticStep :=
  if w.reads i ["TION", "TIA", "TCH"] then both "X" 3
  else if w.reads i ["TH", "TTH"] then
    if w.reads (i + 2) ["OM", "AM"] || w.reads 0 ["SCH"] then both "T" 2 else ⟨"0", "T", 2⟩
  else plainStep w i "T" ["T", "D"]

def stepW (w : Spelling) (i : Int) : PhoneticStep :=
  if w.reads i ["WR"] then both "R" 2
  else if i = 0 && w.isVowel 1 then ⟨"A", "F", 1⟩
  else if i = 0 && w.reads 0 ["WH"] then both "A" 1
  else if (i = w.last && w.isVowel (i - 1)) ||
      w.reads (i - 1) ["EWSKI", "EWSKY", "OWSKI", "OWSKY"] || w.reads 0 ["SCH"] then ⟨"", "F", 1⟩
  else if w.reads i ["WICZ", "WITZ"] then ⟨"TS", "FX", 4⟩
  else silent 1

def stepX (w : Spelling) (i : Int) : PhoneticStep :=
  let advance := if w.reads (i + 1) ["C", "X"] then 2 else 1
  if i = w.last && (w.reads (i - 3) ["IAU", "EAU"] || w.reads (i - 2) ["AU", "OU"]) then
    silent advance
  else both "KS" advance

def stepZ (w : Spelling) (i : Int) : PhoneticStep :=
  let advance := if w.reads (i + 1) ["Z", "H"] then 2 else 1
  if w.reads (i + 1) ["H"] then both "J" advance
  else if w.reads (i + 1) ["ZO", "ZI", "ZA"] ||
      (w.isSlavoGermanic && 0 < i && !w.reads (i - 1) ["T"]) then ⟨"S", "TS", advance⟩
  else both "S" advance

/-- The step for the letter at a place, if a rule decides. -/
def step? (w : Spelling) (i : Int) : Option PhoneticStep :=
  match w.letter i with
  | 'A' | 'E' | 'I' | 'O' | 'U' | 'Y' => some (vowelStep i)
  | 'B' => some (plainStep w i "P" ["B"])
  | 'C' => some (stepC w i)
  | 'D' => some (stepD w i)
  | 'F' => some (plainStep w i "F" ["F"])
  | 'G' => stepG w i
  | 'H' => some (stepH w i)
  | 'J' => some (stepJ w i)
  | 'K' => some (plainStep w i "K" ["K"])
  | 'L' => some (stepL w i)
  | 'M' => some (stepM w i)
  | 'N' => some (plainStep w i "N" ["N"])
  | 'P' => some (stepP w i)
  | 'Q' => some (plainStep w i "K" ["Q"])
  | 'R' => some (stepR w i)
  | 'S' => some (stepS w i)
  | 'T' => some (stepT w i)
  | 'V' => some (plainStep w i "F" ["V"])
  | 'W' => some (stepW w i)
  | 'X' => some (stepX w i)
  | 'Z' => some (stepZ w i)
  | _ => none

/-! ## Words -/

def codesFrom (w : Spelling) : Nat -> Int -> PhoneticStep -> List Char × List Char
  | 0, _, _ => ([], [])
  | fuel + 1, i, previous =>
    if w.last < i then ([], [])
    else
      let step := (w.step? i).getD previous
      let (primary, secondary) := codesFrom w fuel (i + step.advance) step
      (step.primary.toList ++ primary, step.secondary.toList ++ secondary)

def silentStart (w : Spelling) : Nat :=
  if w.reads 0 ["GN", "KN", "PN", "WR", "PS"] then 1 else 0

def codes (w : Spelling) : List Char × List Char :=
  let fuel := w.letters.size + 1
  if w.reads 0 ["X"] then
    let (primary, secondary) := codesFrom w fuel (w.silentStart + 1) (silent 1)
    ('S' :: primary, 'S' :: secondary)
  else codesFrom w fuel w.silentStart (silent 1)

end Spelling

namespace Phonetic

/-- The codes of a word, given two for how it sounds: those that are not empty, without repetition.
A word without a code stands for itself. -/
def wordCodesBy (sound : List Char -> List Char × List Char) (word : List Char) :
    List (List Char) :=
  let (primary, secondary) := sound word
  match ([primary, secondary].filter fun code => !code.isEmpty).eraseDups with
  | [] => [word]
  | codes => codes

def textCodesBy (sound : List Char -> List Char × List Char) (text : List Char) :
    List (List (List Char)) :=
  (Text.words text).map (wordCodesBy sound)

def sound (word : List Char) : List Char × List Char :=
  (Spelling.ofWord word).codes

def textCodes (text : List Char) : List (List (List Char)) :=
  textCodesBy sound text

theorem wordCodesBy_ne_nil (sound : List Char -> List Char × List Char) (word : List Char) :
    wordCodesBy sound word ≠ [] := by
  unfold wordCodesBy
  split
  split <;> simp_all

end Phonetic

end CatalogSearch
