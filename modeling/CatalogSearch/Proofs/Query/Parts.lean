import CatalogSearch.Proofs.Query.Hits
import CatalogSearch.Query.Intent

/-!
# Parts of phrases

Every phrase is a sequence of parts: boundaries, letters, symbols, white space and amounts.
What holds of all phrases is proved once, by induction on the sequence of parts.
-/

namespace CatalogSearch

open Text

namespace Pattern

variable {α β : Type}

/-!
## Laws of sequences
-/

theorem getLast?_append_or (front back : List Char) (prev : Option Char) :
    (front ++ back).getLast?.or prev = back.getLast?.or (front.getLast?.or prev) := by
  rw [List.getLast?_append, Option.or_assoc]

theorem ext_hits
    {first second : Pattern α}
    (h : forall (prev : Option Char) (text : List Char) (hit : Hit α),
      first prev text = some hit <-> second prev text = some hit) :
    first = second := by
  funext prev text
  exact Option.ext (h prev text)

instance : LawfulMonad Pattern := by
  refine LawfulMonad.mk' Pattern ?_ ?_ ?_
  · intro α pattern
    apply ext_hits
    intro prev text hit
    rw [map_eq_some]
    constructor
    · intro h
      rcases h with ⟨inner, hinner, hhit⟩
      rw [hhit]
      exact hinner
    · intro h
      exact ⟨hit, h, rfl⟩
  · intro α β value next
    apply ext_hits
    intro prev text hit
    rw [bind_eq_some]
    constructor
    · intro h
      rcases h with ⟨lead, last, hlead, hlast, hhit⟩
      rw [pure_eq_some.mp hlead] at hlast hhit
      rw [hhit]
      exact hlast
    · intro h
      exact ⟨⟨value, [], text⟩, hit, rfl, h, rfl⟩
  · intro α β γ pattern next last
    apply ext_hits
    intro prev text hit
    constructor
    · intro h
      rcases bind_eq_some.mp h with ⟨both, c, hboth, hc, hhit⟩
      rcases bind_eq_some.mp hboth with ⟨a, b, ha, hb, heq⟩
      rw [heq, getLast?_append_or] at hc
      have hrest : (next a.value >>= last) (a.text.getLast?.or prev) a.rest =
          some ⟨c.value, b.text ++ c.text, c.rest⟩ := bind_some hb hc
      rw [bind_some ha hrest, hhit, heq, List.append_assoc]
    · intro h
      rcases bind_eq_some.mp h with ⟨a, both, ha, hboth, hhit⟩
      rcases bind_eq_some.mp hboth with ⟨b, c, hb, hc, heq⟩
      have hfront := bind_some ha hb
      rw [← getLast?_append_or] at hc
      rw [bind_some hfront hc, hhit, heq, List.append_assoc]

end Pattern

namespace Phrase

open Pattern

/-!
## Parts
-/

inductive Part
  | boundary
  | letter (letter : Char)
  | symbol (symbol : Char)
  | someBlanks
  | blanks
  | amount
  deriving DecidableEq

namespace Part

def pattern : Part -> Pattern (List Digits)
  | boundary => (fun _ => []) <$> Pattern.boundary
  | letter c => (fun _ => []) <$> charWhere (sameLetter c)
  | symbol c => (fun _ => []) <$> charWhere (· == c)
  | someBlanks => (fun _ => []) <$> Pattern.someBlanks
  | blanks => (fun _ => []) <$> Pattern.blanks
  | amount => (fun digits => [digits]) <$> Pattern.amount

end Part

def readParts : List Part -> Pattern (List Digits)
  | [] => pure []
  | part :: rest => do
      let amounts ← part.pattern
      let more ← readParts rest
      pure (amounts ++ more)

theorem readParts_cons (part : Part) (rest : List Part) :
    readParts (part :: rest) =
      part.pattern >>= fun amounts => (amounts ++ ·) <$> readParts rest := by
  simp [readParts]

theorem readParts_append (front back : List Part) :
    readParts (front ++ back) =
      readParts front >>= fun amounts => (amounts ++ ·) <$> readParts back := by
  induction front with
  | nil => simp [readParts]
  | cons part front ih => simp [readParts, ih]

/-!
## Well-formed sequences

In every phrase something solid stands behind white space, and nothing that could continue an
amount stands behind one.
-/

namespace Part

def isSolid : Part -> Bool
  | letter c => c.isLower
  | symbol c => !isBlank c && c != '.'
  | amount => true
  | _ => false

def opensWith : Part -> Char -> Bool
  | letter l, c => sameLetter l c
  | symbol s, c => c == s
  | amount, c => c == '$' || isDigit c
  | _, _ => true

end Part

def solidAhead (stoppers : List Char) : List Part -> Bool
  | part :: _ => part.isSolid && stoppers.all fun c => !part.opensWith c
  | [] => false

def endsAmount : List Part -> Bool
  | [] => true
  | part :: _ => part == .someBlanks || part == .blanks

def wellFormed (stoppers : List Char) : List Part -> Bool
  | [] => true
  | .boundary :: rest => wellFormed stoppers rest
  | .someBlanks :: rest => solidAhead stoppers rest && wellFormed stoppers rest
  | .blanks :: rest => solidAhead stoppers rest && wellFormed stoppers rest
  | .amount :: rest => endsAmount rest && wellFormed stoppers rest
  | .letter c :: rest => (Part.letter c).isSolid && wellFormed stoppers rest
  | .symbol c :: rest => (Part.symbol c).isSolid && wellFormed stoppers rest

theorem Part.isSolid_symbol (symbol : Char) :
    (Part.symbol symbol).isSolid = (!isBlank symbol && symbol != '.') := rfl

theorem readParts_boundary (rest : List Part) :
    readParts (.boundary :: rest) = boundary >>= fun _ => readParts rest := by
  simp [readParts, Part.pattern]

theorem readParts_letter (letter : Char) (rest : List Part) :
    readParts (.letter letter :: rest) =
      charWhere (sameLetter letter) >>= fun _ => readParts rest := by
  simp [readParts, Part.pattern]

theorem readParts_symbol (symbol : Char) (rest : List Part) :
    readParts (.symbol symbol :: rest) =
      charWhere (· == symbol) >>= fun _ => readParts rest := by
  simp [readParts, Part.pattern]

theorem readParts_someBlanks (rest : List Part) :
    readParts (.someBlanks :: rest) = someBlanks >>= fun _ => readParts rest := by
  simp [readParts, Part.pattern]

theorem readParts_blanks (rest : List Part) :
    readParts (.blanks :: rest) = blanks >>= fun _ => readParts rest := by
  simp [readParts, Part.pattern]

theorem readParts_amount (rest : List Part) :
    readParts (.amount :: rest) =
      amount >>= fun digits => (digits :: ·) <$> readParts rest := by
  simp [readParts, Part.pattern]

/-!
## Phrases as sequences of parts
-/

def wordParts (text : String) : List Part :=
  text.toList.map .letter

def leadingParts (words : List String) : List Part :=
  words.flatMap fun next => wordParts next ++ [.someBlanks]

def trailingParts (words : List String) : List Part :=
  words.flatMap fun next => .someBlanks :: wordParts next

def thenAmountParts (words : List String) : List Part :=
  .boundary :: leadingParts words ++ [.amount]

def amountThenParts (words : List String) : List Part :=
  .amount :: trailingParts words ++ [.boundary]

def aroundParts (joint : String) : List Part :=
  .amount :: .someBlanks :: wordParts joint ++ [.someBlanks, .amount]

def aroundHyphenParts : List Part :=
  [.amount, .blanks, .symbol '-', .blanks, .amount]

def betweenParts : List Part :=
  .boundary :: wordParts "between" ++ .someBlanks :: aroundParts "and"

def dollarParts (text : String) : List Part :=
  .boundary :: wordParts text ++ [.someBlanks, .symbol '$']

def boundedParts : List String -> List Part
  | [] => [.boundary]
  | first :: rest => .boundary :: wordParts first ++ trailingParts rest ++ [.boundary]

theorem readParts_wordParts (text : String) :
    readParts (wordParts text) = (fun _ => []) <$> word text := by
  unfold wordParts word
  induction text.toList with
  | nil => simp [readParts, letters]; rfl
  | cons letter rest ih =>
      have hletters : letters (letter :: rest) =
          (charWhere (sameLetter letter) >>= fun _ => letters rest) := rfl
      simp [readParts, Part.pattern, ih, hletters]

theorem readParts_leadingParts (words : List String) :
    readParts (leadingParts words) = (fun _ => []) <$> wordsThenAmount.leading words := by
  induction words with
  | nil => simp [leadingParts, readParts, wordsThenAmount.leading]
  | cons next words ih =>
      rw [leadingParts] at ih
      simp [leadingParts, readParts_append, readParts_wordParts, readParts, Part.pattern, ih,
        wordsThenAmount.leading]

theorem readParts_trailingParts (words : List String) :
    readParts (trailingParts words) = (fun _ => []) <$> amountThenWords.trailing words := by
  induction words with
  | nil => simp [trailingParts, readParts, amountThenWords.trailing]
  | cons next words ih =>
      rw [trailingParts] at ih
      simp [trailingParts, readParts_append, readParts_wordParts, readParts, Part.pattern, ih,
        amountThenWords.trailing]

def lowAmount (amounts : List Digits) : Digits :=
  amounts.headD ⟨[], []⟩

def highAmount (amounts : List Digits) : Digits :=
  amounts.getLastD ⟨[], []⟩

theorem wordsThenAmount_eq (words : List String) :
    wordsThenAmount words =
      lowAmount <$> readParts (thenAmountParts words) := by
  simp [wordsThenAmount, thenAmountParts, readParts_append, readParts_leadingParts, readParts,
    Part.pattern, lowAmount]

theorem amountThenWords_eq (words : List String) :
    amountThenWords words =
      lowAmount <$> readParts (amountThenParts words) := by
  simp [amountThenWords, amountThenParts, readParts_append, readParts_trailingParts, readParts,
    Part.pattern, lowAmount]

theorem amountsAround_eq (joint : String) :
    amountsAround joint =
      (fun amounts => (lowAmount amounts, highAmount amounts)) <$>
        readParts (aroundParts joint) := by
  simp [amountsAround, aroundParts, readParts_append, readParts_wordParts, readParts, Part.pattern,
    lowAmount, highAmount]

theorem amountsAroundHyphen_eq :
    amountsAroundHyphen =
      (fun amounts => (lowAmount amounts, highAmount amounts)) <$> readParts aroundHyphenParts := by
  simp [amountsAroundHyphen, aroundHyphenParts, readParts, Part.pattern, lowAmount, highAmount]

theorem betweenAmounts_eq :
    betweenAmounts =
      (fun amounts => (lowAmount amounts, highAmount amounts)) <$> readParts betweenParts := by
  simp [betweenAmounts, betweenParts, amountsAround_eq, readParts_append, readParts_wordParts,
    readParts, Part.pattern]

theorem boundedWords_eq (words : List String) :
    boundedWords words = (fun _ => ()) <$> readParts (boundedParts words) := by
  have hmore : forall words : List String, boundedWords.more words =
      (amountThenWords.trailing words >>= fun _ => boundary) := by
    intro words
    induction words with
    | nil => simp [boundedWords.more, amountThenWords.trailing]
    | cons next words ih =>
        have hnext : boundedWords.more (next :: words) =
            (someBlanks >>= fun _ => word next >>= fun _ => boundedWords.more words) := rfl
        simp [hnext, ih, amountThenWords.trailing]
  cases words with
  | nil => simp [boundedParts, boundedWords, readParts, Part.pattern]
  | cons first rest =>
      have hfirst : boundedWords (first :: rest) =
          (boundary >>= fun _ => word first >>= fun _ => boundedWords.more rest) := rfl
      simp [hfirst, hmore, boundedParts, readParts_append, readParts_wordParts,
        readParts_trailingParts, readParts, Part.pattern]

theorem wordThenDollar_eq (text : String) :
    wordThenDollar text = (fun _ => ()) <$> readParts (dollarParts text) := by
  simp [wordThenDollar, dollarParts, readParts_append, readParts_wordParts, readParts, Part.pattern]

/-!
## The tables of phrases
-/

def atMostOf (amounts : List Digits) : PriceBound :=
  .atMost (lowAmount amounts)

def atLeastOf (amounts : List Digits) : PriceBound :=
  .atLeast (lowAmount amounts)

def rangeOf (amounts : List Digits) : PriceBound :=
  .range (lowAmount amounts) (highAmount amounts)

/-- The parts of the price phrases, and the bound that is made of their amounts. -/
def priceShapes : List (List Part × (List Digits -> PriceBound)) := [
  (thenAmountParts ["under"], atMostOf),
  (thenAmountParts ["less", "than"], atMostOf),
  (thenAmountParts ["below"], atMostOf),
  (amountThenParts ["or", "less"], atMostOf),
  (amountThenParts ["and", "under"], atMostOf),
  (thenAmountParts ["over"], atLeastOf),
  (thenAmountParts ["more", "than"], atLeastOf),
  (thenAmountParts ["above"], atLeastOf),
  (amountThenParts ["or", "more"], atLeastOf),
  (amountThenParts ["and", "up"], atLeastOf),
  (betweenParts, rangeOf),
  (aroundHyphenParts, rangeOf),
  (aroundParts "to", rangeOf)]

theorem prices_eq :
    prices = priceShapes.map fun shape => shape.2 <$> readParts shape.1 := by
  simp only [prices, priceShapes, wordsThenAmount_eq, amountThenWords_eq, amountsAround_eq,
    amountsAroundHyphen_eq, betweenAmounts_eq, Functor.map_map, List.map_cons, List.map_nil]
  rfl

def readsOne (alternatives : List (List Part)) : Pattern Unit :=
  anyOf (alternatives.map fun parts => (fun _ => ()) <$> readParts parts)

theorem anyOf_boundedWords (spellings : List (List String)) :
    anyOf (spellings.map boundedWords) = readsOne (spellings.map boundedParts) := by
  unfold readsOne
  rw [List.map_map]
  congr 1
  apply List.map_congr_left
  intro words _
  exact boundedWords_eq words

theorem Name.pattern_eq (name : Name) :
    name.pattern = readsOne (name.spellings.map boundedParts) :=
  anyOf_boundedWords name.spellings

def sortShapes : List (List (List Part)) := [
  [boundedParts ["cheapest"], boundedParts ["lowest", "price"], dollarParts "under"],
  [boundedParts ["most", "expensive"], boundedParts ["highest", "price"], dollarParts "over"],
  [boundedParts ["best", "rated"], boundedParts ["top", "rated"],
    boundedParts ["highest", "rated"]],
  [boundedParts ["newest"], boundedParts ["latest"], boundedParts ["recent"]],
  [boundedParts ["popular"], boundedParts ["trending"], boundedParts ["hot"]]]

theorem sorts_eq :
    sorts.map Prod.fst = sortShapes.map readsOne := by
  simp only [sorts, sortShapes, List.map_cons, List.map_nil, readsOne, boundedWords_eq,
    wordThenDollar_eq, dollarParts]

def fillerShape : List (List Part) :=
  ["for", "in", "with", "looking", "want", "need"].map fun text => boundedParts [text]

theorem filler_eq :
    filler = readsOne fillerShape := by
  simp only [filler, fillerShape, readsOne, List.map_cons, List.map_nil, boundedWords_eq]

end Phrase

end CatalogSearch
