import CatalogSearch.Proofs.Query.Respacing
import CatalogSearch.Proofs.Text.LowerNumbers
import CatalogSearch.Proofs.Text.LowerWords

/-!
# Price phrases in a text that goes on

A price phrase shows a digit, and no word within one begins like a label or a mark.  So a text
puts the same price if such words without a digit follow it.
-/

namespace CatalogSearch

open Text Pattern

/-!
## Places in a text that goes on
-/

namespace Spot

def GoesOn (tail : List Char) (spot spot' : Spot) : Prop :=
  spot'.prev = spot.prev ∧ spot'.rest = spot.rest ++ tail

theorem blank_cases (text : List Char) :
    (forall c : Char, c ∈ text -> isBlank c = true) ∨
      exists (run rest : List Char) (c : Char), text = run ++ c :: rest ∧
        (forall d : Char, d ∈ run -> isBlank d = true) ∧ isBlank c = false := by
  cases hopen : text.dropWhile isBlank with
  | nil => exact Or.inl fun c hc => List.dropWhile_eq_nil_iff.mp hopen c hc
  | cons c rest =>
      refine Or.inr ⟨text.takeWhile isBlank, rest, c, ?_, fun _ => mem_takeWhile,
        head_dropWhile (by rw [hopen]; rfl)⟩
      rw [← hopen, List.takeWhile_append_dropWhile]

theorem tracks_goesOn
    {stoppers : List Char} {blank c : Char} (hblank : isBlank blank = true)
    (hc : isBlank c = false) (hstops : c ∈ stoppers) (tail : List Char) :
    Tracks stoppers (GoesOn (blank :: c :: tail)) := by
  constructor
  · rintro spot spot' ⟨hprev, _⟩
    rw [hprev]
  · rintro prev d text spot' ⟨_, hrest⟩ _
    exact ⟨text ++ blank :: c :: tail, hrest, rfl, rfl⟩
  · rintro prev' d text' spot ⟨_, hrest⟩ hd
    cases hspot : spot.rest with
    | nil =>
        rw [hspot, List.nil_append] at hrest
        rw [(List.cons.inj hrest).1, hblank] at hd
        cases hd
    | cons e text =>
        rw [hspot, List.cons_append] at hrest
        rcases List.cons.inj hrest with ⟨rfl, htext⟩
        exact ⟨text, rfl, rfl, htext⟩
  · rintro ⟨prev, rest⟩ ⟨prev', rest'⟩ ⟨hprev, hrest⟩
    simp only at hprev hrest
    rw [hprev, hrest]
    rcases blank_cases rest with hrun | ⟨run, text, d, rfl, hrun, hd⟩
    · -- the stopper stands behind the white space at the end of the text
      right
      have hlonger : forall d : Char, d ∈ rest ++ [blank] -> isBlank d = true := by
        intro d hd
        rcases List.mem_append.mp hd with hd | hd
        · exact hrun d hd
        · rw [List.mem_singleton.mp hd]
          exact hblank
      have hover := (Respaced.takeWhile_spaced hlonger hc tail).2
      rw [List.append_assoc, List.singleton_append] at hover
      simp only [Spot.overBlanks, Spot.Stops, (Respaced.takeWhile_blank hrun).2, hover]
      constructor
      · intro d hd
        cases hd
      · intro d hd
        rw [← Option.some.inj hd]
        exact hstops
    · left
      have hover := Respaced.takeWhile_spaced hrun hd text
      have hover' := Respaced.takeWhile_spaced hrun hd (text ++ blank :: c :: tail)
      rw [List.append_assoc, List.cons_append]
      simp only [Spot.overBlanks, hover.1, hover.2, hover'.1, hover'.2]
      exact ⟨⟨rfl, rfl⟩, trivial⟩

end Spot

namespace Pattern

variable {α : Type} {pattern : Pattern α}

/-!
## Search in a text that goes on
-/

theorem searchFrom_of_shows
    {shown allowed : Char -> Prop} (hcovers : Covers allowed pattern) (hshows : Shows shown pattern)
    (text : List Char) (h : forall c : Char, c ∈ text -> ¬ shown c) (prev : Option Char) :
    searchFrom pattern prev text = none := by
  have hnone : forall (prev : Option Char) (rest : List Char), rest <:+ text ->
      pattern prev rest = none := by
    intro prev rest hsuffix
    cases hhit : pattern prev rest with
    | none => rfl
    | some hit =>
        rcases hshows _ _ _ hhit with ⟨c, hc, hshown⟩
        have hmem : c ∈ rest := by
          rw [hcovers.split hhit]
          exact List.mem_append_left _ hc
        exact absurd hshown (h c (hsuffix.mem hmem))
  induction text generalizing prev with
  | nil => rw [searchFrom, hnone prev [] List.suffix_rfl, Option.map_none]
  | cons c text ih =>
      have hrest := ih (fun d hd => h d (List.mem_cons_of_mem c hd)) (some c)
        fun prev rest hsuffix => hnone prev rest (hsuffix.trans (List.suffix_cons c text))
      rw [searchFrom, hnone prev _ List.suffix_rfl, hrest]
      rfl

/-- A pattern reads the same in a text that goes on, if it does at every place and nothing of it is
shown where the text goes on. -/
theorem searchFrom_append
    {shown allowed : Char -> Prop} (hcovers : Covers allowed pattern) (hshows : Shows shown pattern)
    {tail : List Char} (hagrees : Agrees (Spot.GoesOn tail) pattern)
    (htail : forall c : Char, c ∈ tail -> ¬ shown c) (prev : Option Char) (text : List Char) :
    (searchFrom pattern prev (text ++ tail)).map (·.value) =
      (searchFrom pattern prev text).map (·.value) := by
  induction text generalizing prev with
  | nil =>
      have hempty := searchFrom_of_shows hcovers hshows [] (List.forall_mem_nil _) prev
      rw [List.nil_append, hempty, searchFrom_of_shows hcovers hshows tail htail prev]
  | cons c text ih =>
      rw [List.cons_append, searchFrom, searchFrom]
      rcases rel_cases (hagrees ⟨prev, c :: text⟩ ⟨prev, c :: (text ++ tail)⟩ ⟨rfl, rfl⟩) with
        ⟨hnone, hnone'⟩ | ⟨hit, hit', hhit, hhit', hagree⟩
      · simp only at hnone hnone'
        rw [hnone, hnone', Option.map_map, Option.map_map]
        exact ih (some c)
      · simp only at hhit hhit'
        rw [hhit, hhit', Option.map_some, Option.map_some, hagree.value]

end Pattern

namespace Phrase

/-!
## The price of a text that goes on
-/

theorem firstFound_value
    {α β : Type} {pattern : α -> Pattern β} {text text' : List Char} {list : List α}
    (h : forall entry : α, entry ∈ list ->
      ((pattern entry).search text').map (·.value) = ((pattern entry).search text).map (·.value)) :
    (firstFound pattern text' list).map (fun entry => entry.2.value) =
      (firstFound pattern text list).map fun entry => entry.2.value := by
  induction list with
  | nil => rfl
  | cons entry list ih =>
      have hfirst := h entry List.mem_cons_self
      rw [firstFound, firstFound]
      cases hfound : (pattern entry).search text with
      | none =>
          rw [hfound, Option.map_none, Option.map_eq_none_iff] at hfirst
          rw [hfirst]
          exact ih fun other hmem => h other (List.mem_cons_of_mem entry hmem)
      | some found =>
          rw [hfound, Option.map_some] at hfirst
          rcases Option.map_eq_some_iff.mp hfirst with ⟨found', hfound', hvalue⟩
          rw [hfound', Option.map_some, Option.map_some, hvalue]

theorem price?_condition (text : List Char) :
    (price? text).map Prod.fst =
      ((firstFound (fun pattern => pattern) text prices).map fun entry =>
        entry.2.value).bind PriceBound.condition := by
  rw [price?]
  cases firstFound (fun pattern => pattern) text prices with
  | none => rfl
  | some entry =>
      show (entry.2.value.condition.map _).map Prod.fst = entry.2.value.condition
      rw [Option.map_map]
      exact congrFun Option.map_id _

theorem price?_of_digits
    {text : List Char} (h : forall c : Char, c ∈ text -> isDigit c = false) :
    (price? text).map Prod.fst = none := by
  have hsame : (firstFound (fun pattern => pattern) text prices).map (fun entry => entry.2.value) =
      (firstFound (fun pattern => pattern) [] prices).map fun entry => entry.2.value := by
    apply firstFound_value
    intro pattern hmem
    have hphrase := isPricePhrase_of_mem_prices hmem
    have hnone : forall c : Char, c ∈ text -> ¬ isDigit c = true :=
      fun c hc => Bool.eq_false_iff.mp (h c hc)
    unfold search
    rw [searchFrom_of_shows hphrase.covers hphrase.shows text hnone,
      searchFrom_of_shows hphrase.covers hphrase.shows [] (List.forall_mem_nil _)]
  rw [price?_condition, hsame, ← price?_condition]
  decide

def outsiders : List Char :=
  [':', 'b', 'c', 'p', 's', 'i', 'ı']

theorem price?_append
    {text tail : List Char} {c : Char} (hc : c ∈ outsiders)
    (htail : forall d : Char, d ∈ c :: tail -> isDigit d = false) :
    (price? (text ++ ' ' :: c :: tail)).map Prod.fst = (price? text).map Prod.fst := by
  have hsolid : (outsiders.all fun c => !isBlank c) = true := by decide
  have hshapes : (priceShapes.all fun shape => wellFormed outsiders shape.1) = true := by
    decide
  have htracks := Spot.tracks_goesOn isBlank_space
    ((Bool.not_eq_true' _).mp (List.all_eq_true.mp hsolid c hc)) hc tail
  rw [price?_condition, price?_condition]
  refine congrArg (Option.bind · PriceBound.condition) (firstFound_value ?_)
  intro pattern hmem
  have hphrase := isPricePhrase_of_mem_prices hmem
  rw [prices_eq] at hmem
  rcases List.mem_map.mp hmem with ⟨shape, hshape, rfl⟩
  have hagrees := (agrees_readParts htracks (List.all_eq_true.mp hshapes shape hshape)).map shape.2
  refine searchFrom_append hphrase.covers hphrase.shows hagrees ?_ none text
  intro d hd
  rcases List.mem_cons.mp hd with rfl | hd
  · exact Bool.eq_false_iff.mp (not_isDigit_of_isBlank _ isBlank_space)
  · exact Bool.eq_false_iff.mp (htail d hd)

end Phrase

namespace Text

/-!
## Words behind a text
-/

theorem lower_collapse_append
    {front back : List Char} {blank : Char} (hblank : isBlank blank = true)
    (hfront : words front ≠ []) (hback : words back ≠ []) :
    lower (collapse (front ++ blank :: back)) =
      lower (collapse front) ++ ' ' :: lower (collapse back) := by
  rw [collapse, words_append_blank front back hblank, joinWords_append hfront hback,
    lower_append_blank _ _ isBlank_space]
  rfl

theorem digits_lower_collapse
    {text : List Char} (h : forall c : Char, c ∈ text -> isDigit c = false) :
    forall c : Char, c ∈ lower (collapse text) -> isDigit c = false := by
  intro c hmem
  cases hc : isDigit c with
  | false => rfl
  | true =>
      have hnumber : isNumberChar c = true := by rw [isNumberChar, hc, Bool.true_or]
      rcases List.append_of_mem hmem with ⟨front, back, hsplit⟩
      have hlowered := lowered_lower (collapse text)
      rw [hsplit] at hlowered
      rcases hlowered.split hnumber with ⟨left, right, hcollapse, _⟩
      have hwithin : c ∈ collapse text := by
        rw [hcollapse]
        exact List.mem_append_right left List.mem_cons_self
      rcases mem_collapse hwithin with rfl | hfound
      · cases hc
      · rw [h c hfound] at hc
        cases hc

end Text

namespace Phrase

def opensOutsider (c : Char) : Bool :=
  !isBlank c && c.toNat != 0x3A3 && (lowerChar c).head?.any fun d => outsiders.contains d

/-- Words behind white space that show no digit, the first of them no word of a price phrase. -/
inductive Outside : List Char -> Prop where
  | intro {blank c : Char} {rest : List Char} :
      isBlank blank = true -> opensOutsider c = true ->
      (forall d : Char, d ∈ c :: rest -> isDigit d = false) -> Outside (blank :: c :: rest)

theorem lower_collapse_outsider
    {c : Char} (hc : opensOutsider c = true) (rest : List Char) :
    exists (d : Char) (more : List Char),
      lower (collapse (c :: rest)) = d :: more ∧ d ∈ outsiders := by
  rw [opensOutsider, Bool.and_eq_true, Bool.and_eq_true, Bool.not_eq_true', bne_iff_ne] at hc
  rcases hc with ⟨⟨hsolid, hsigma⟩, hlower⟩
  have hrespaced := (respaced_wordsAfter (c :: rest)).2
  rw [List.dropWhile_cons_of_neg (Bool.eq_false_iff.mp hsolid)] at hrespaced
  rcases hrespaced.ahead hsolid with ⟨text, hcollapse, _⟩
  rw [hcollapse, lower, lowerAfter, if_neg hsigma]
  cases hfirst : lowerChar c with
  | nil =>
      rw [hfirst] at hlower
      cases hlower
  | cons d more =>
      rw [hfirst] at hlower
      exact ⟨d, _, rfl, List.contains_iff_mem.mp hlower⟩

/-- A text puts the price that it puts without such words behind it. -/
theorem price?_outside
    {tail : List Char} (h : Outside tail) (text : List Char) :
    (price? (lower (collapse (text ++ tail)))).map Prod.fst =
      (price? (lower (collapse text))).map Prod.fst := by
  cases h with
  | @intro blank c rest hblank hc hdigits =>
      have hback := digits_lower_collapse hdigits
      have hsolid : isBlank c = false := by
        rw [opensOutsider, Bool.and_eq_true, Bool.and_eq_true, Bool.not_eq_true'] at hc
        exact hc.1.1
      rcases lower_collapse_outsider hc rest with ⟨d, more, hlower, hd⟩
      rw [hlower] at hback
      by_cases hwords : words text = []
      · have hnil : lower (collapse text) = [] := by rw [collapse, hwords]; rfl
        rw [collapse, words_append_blank text _ hblank, hwords, List.nil_append, hnil,
          ← collapse, hlower, price?_of_digits hback, price?_of_digits (List.forall_mem_nil _)]
      · rw [lower_collapse_append hblank hwords (words_ne_nil List.mem_cons_self hsolid), hlower]
        exact price?_append hd hback

end Phrase

end CatalogSearch
