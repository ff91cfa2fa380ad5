import CatalogSearch.Number.Binary64
import CatalogSearch.Text.Blank

/-!
# Similarity of two texts

The weighted ratio of two texts, from 0 to 100.  It is the greatest of several ratios: of the
texts as they are, of one against the best part of the other, and of their words in sorted
order, with the less direct comparisons scaled down.  Every ratio rests on the length of the
longest common subsequence.  This is one measure that a matcher can run with; what is said of
matchers holds for any other whose values are numbers.
-/

namespace CatalogSearch

namespace Similarity

open Binary64

/-! ## Common subsequences -/

/-- The next row of the table of longest common subsequences, for one more character of the first
text; `left` and `corner` are the cells to the left of and above the one to the left. -/
def nextRow (x : Char) : List Char -> List Nat -> Nat -> Nat -> List Nat
  | y :: rest, up :: row, left, corner =>
    let cell := if x = y then corner + 1 else Nat.max up left
    cell :: nextRow x rest row cell up
  | _, _, _, _ => []

def commonLength (a b : List Char) : Nat :=
  ((a.foldl (fun row x => nextRow x b row 0 0) (b.map fun _ => 0)).getLast?).getD 0

def distance (a b : List Char) : Nat :=
  a.length + b.length - 2 * commonLength a b

/-! ## Ratios -/

def hundred : Binary64 := ofNat 100

def ratio (a b : List Char) : Binary64 :=
  let total := a.length + b.length
  if total = 0 then hundred
  else hundred * (ofNat 1 - ofNat (distance a b) / ofNat total)

def greatest (ratios : List Binary64) : Binary64 :=
  ratios.foldl Binary64.max zero

/-- The parts of `long` that `short` is compared with: those of its own length and the shorter ones
at either end, where the outermost character occurs in `short`. -/
def parts (short long : List Char) : List (List Char) :=
  let n := short.length
  let m := long.length
  let leading := (List.range (n - 1)).map fun i => long.take (i + 1)
  let inner := (List.range (m - n)).map fun i => (long.drop i).take n
  let trailing := (List.range n).map fun i => long.drop (m - n + i)
  (leading ++ inner).filter (fun part => part.getLast?.any short.contains) ++
    trailing.filter (fun part => part.head?.any short.contains)

def bestPart (short long : List Char) : Binary64 :=
  greatest ((parts short long).map (ratio short))

def partialRatio (a b : List Char) : Binary64 :=
  if a.isEmpty && b.isEmpty then hundred
  else if a.length < b.length then bestPart a b
  else if b.length < a.length then bestPart b a
  else (bestPart a b).max (bestPart b a)

/-! ## Words -/

def wordLe (a b : List Char) : Bool :=
  String.ofList a ≤ String.ofList b

def sorted (words : List (List Char)) : List (List Char) :=
  words.mergeSort wordLe

def remainder (distance total : Nat) : Binary64 :=
  if total = 0 then hundred else hundred - hundred * ofNat distance / ofNat total

/-- The words of two texts, without repetition and in order: those of both, of the first only and of
the second only. -/
structure SharedWords where
  both : List (List Char)
  first : List (List Char)
  second : List (List Char)

def sharedWords (a b : List (List Char)) : SharedWords :=
  let a := sorted a.eraseDups
  let b := sorted b.eraseDups
  ⟨a.filter b.contains, a.filter (!b.contains ·), b.filter (!a.contains ·)⟩

def sortedRatio (a b : List (List Char)) : Binary64 :=
  ratio (Text.joinWords (sorted a)) (Text.joinWords (sorted b))

def sharedRatio (a b : List (List Char)) : Binary64 :=
  let shared := sharedWords a b
  if !shared.both.isEmpty && (shared.first.isEmpty || shared.second.isEmpty) then hundred
  else
    let x := Text.joinWords shared.first
    let y := Text.joinWords shared.second
    let common := (Text.joinWords shared.both).length
    let gap := if common = 0 then 0 else 1
    let xTotal := common + gap + x.length
    let yTotal := common + gap + y.length
    let whole := remainder (distance x y) (xTotal + yTotal)
    if common = 0 then whole
    else (whole.max (remainder (gap + x.length) (common + xTotal))).max
      (remainder (gap + y.length) (common + yTotal))

def partialWordRatio (a b : List (List Char)) : Binary64 :=
  let shared := sharedWords a b
  if !shared.both.isEmpty then hundred
  else
    let whole := partialRatio (Text.joinWords (sorted a)) (Text.joinWords (sorted b))
    if a.eraseDups.length = a.length ∧ b.eraseDups.length = b.length then whole
    else whole.max (partialRatio (Text.joinWords shared.first) (Text.joinWords shared.second))

/-! ## The weighted ratio -/

def wordWeight : Binary64 := ofQuotient false 95 100

def partWeight (quotient : Binary64) : Binary64 :=
  if quotient.le (ofNat 8) then ofQuotient false 9 10 else ofQuotient false 6 10

def weightedRatio (a b : List Char) : Binary64 :=
  if a.isEmpty || b.isEmpty then zero
  else
    let words := Text.words a
    let words' := Text.words b
    let direct := ratio a b
    let quotient := ofNat (Nat.max a.length b.length) / ofNat (Nat.min a.length b.length)
    if quotient.lt (ofQuotient false 3 2) then
      direct.max ((sharedRatio words words').max (sortedRatio words words') * wordWeight)
    else
      let weight := partWeight quotient
      (direct.max (partialRatio a b * weight)).max
        (partialWordRatio words words' * wordWeight * weight)

end Similarity

end CatalogSearch
