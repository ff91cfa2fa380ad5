import CatalogSearch.Proofs.Query.FreeNumerals
import CatalogSearch.Proofs.Query.Parts
import CatalogSearch.Proofs.Query.PriceConditions

/-!
# Numerals behind the bounds of a price

The numerals of the price grammar stand free by themselves.  The amounts of a phrase are
longest numerals that its parts keep apart, so that they stand free if no number reaches over
the two ends of the phrase.
-/

namespace CatalogSearch

open Text Pattern

/-!
## The grammar
-/

def PricePredicate.bounds : PricePredicate -> List Binary64
  | .compare _ value => [value]
  | .range low high => [low, high]

/-- Every bound of a price is the value of a numeral that stands free in a text. -/
def BoundsStandFree (condition : PricePredicate) (text : List Char) : Prop :=
  forall bound : Binary64, bound ∈ condition.bounds ->
    exists digits : Digits, HasNumeral text digits ∧ digits.value = bound

theorem boundsStandFree_compare
    {text : List Char} {digits : Digits} (op : Comparison) (h : HasNumeral text digits) :
    BoundsStandFree (.compare op digits.value) text := by
  intro bound hmem
  exact ⟨digits, h, (List.mem_singleton.mp hmem).symm⟩

theorem boundsStandFree_between
    {text : List Char} {low high : Digits} (hlow : HasNumeral text low)
    (hhigh : HasNumeral text high) :
    BoundsStandFree (.between low.value high.value) text := by
  intro bound hmem
  have hone : bound = low.value ∨ bound = high.value := by
    unfold PricePredicate.between at hmem
    split at hmem
    · simpa [PricePredicate.bounds, or_comm] using hmem
    · simpa [PricePredicate.bounds] using hmem
  rcases hone with heq | heq
  · exact ⟨low, hlow, heq.symm⟩
  · exact ⟨high, hhigh, heq.symm⟩

namespace Place

variable {first last : Place}

theorem ReadsBlanks.text_eq (h : first.ReadsBlanks last) :
    last.text = first.text := by
  rcases h with ⟨_, hreads, _⟩
  exact hreads.text_eq

theorem ReadsDollar.text_eq (h : first.ReadsDollar last) :
    last.text = first.text := by
  rcases h with hplace | hreads
  · rw [hplace]
  · exact hreads.text_eq

theorem ReadsGap.text_eq (h : first.ReadsGap last) :
    last.text = first.text := by
  cases h with
  | intro hblanks hdollar hmore =>
      rw [hmore.text_eq, hdollar.text_eq, hblanks.text_eq]

theorem ReadsSign.text_eq {sign : Option Comparison} (h : first.ReadsSign sign last) :
    last.text = first.text := by
  cases sign with
  | none =>
      have hplace : last = first := h
      rw [hplace]
  | some op => exact Reads.text_eq h

theorem ReadsNumeral.hasNumeral
    {digits : Digits} (h : first.ReadsNumeral digits last) :
    HasNumeral first.text digits :=
  ⟨first, last, rfl, h⟩

theorem ReadsMarked.hasNumeral
    {sign : Option Comparison} {low : Digits} (h : first.ReadsMarked sign low last) :
    HasNumeral first.text low ∧ last.text = first.text := by
  cases h with
  | intro hmark hblanks hsign hmore hdollar hnumeral =>
      rcases hmark with ⟨_, hmark, _⟩
      rw [hnumeral.reads.text_eq, ← hmark.text_eq, ← hblanks.text_eq, ← hsign.text_eq,
        ← hmore.text_eq, ← hdollar.text_eq]
      exact ⟨hnumeral.hasNumeral, rfl⟩

theorem ReadsSecond.hasNumeral
    {high : Digits} (h : first.ReadsSecond high last) :
    HasNumeral first.text high := by
  cases h with
  | intro hblanks hhyphen hmore hdollar hnumeral =>
      rw [← hblanks.text_eq, ← hhyphen.text_eq, ← hmore.text_eq, ← hdollar.text_eq]
      exact hnumeral.hasNumeral

theorem MarkedPrice.boundsStandFree
    {condition : PricePredicate} (h : first.MarkedPrice condition) :
    BoundsStandFree condition first.text := by
  cases h with
  | range hmarked hsecond =>
      have hhigh := hsecond.hasNumeral
      rw [hmarked.hasNumeral.2] at hhigh
      exact boundsStandFree_between hmarked.hasNumeral.1 hhigh
  | comparison hmarked _ => exact boundsStandFree_compare _ hmarked.hasNumeral.1

theorem BareRange.boundsStandFree
    {condition : PricePredicate} (h : first.BareRange condition) :
    BoundsStandFree condition first.text := by
  cases h with
  | intro hlow hblanks hhyphen hgap hhigh =>
      have hnumeral := hhigh.hasNumeral
      rw [hgap.text_eq, hhyphen.text_eq, hblanks.text_eq, hlow.reads.text_eq] at hnumeral
      exact boundsStandFree_between hlow.hasNumeral hnumeral

theorem BareComparison.boundsStandFree
    {condition : PricePredicate} (h : first.BareComparison condition) :
    BoundsStandFree condition first.text := by
  cases h with
  | intro hsign hgap hvalue =>
      have hnumeral := hvalue.hasNumeral
      rw [hgap.text_eq, hsign.text_eq] at hnumeral
      exact boundsStandFree_compare _ hnumeral

end Place

theorem PriceCondition.boundsStandFree
    {text : List Char} {condition : PricePredicate} (h : PriceCondition text condition) :
    BoundsStandFree condition text := by
  cases h with
  | marked hleft => exact hleft.inText ▸ hleft.stands.boundsStandFree
  | range _ hleft => exact hleft.inText ▸ hleft.stands.boundsStandFree
  | comparison _ _ hleft => exact hleft.inText ▸ hleft.stands.boundsStandFree

/-!
## Phrases
-/

namespace Phrase

def separates (c : Char) : Bool :=
  !(isWordChar c || c == '.')

def closesAmount : List Part -> Bool
  | [] => true
  | .someBlanks :: _ => true
  | .blanks :: .symbol c :: _ => separates c
  | _ => false

def amountsApart : Bool -> List Part -> Bool
  | _, [] => true
  | free, .amount :: rest => free && closesAmount rest && amountsApart false rest
  | _, .someBlanks :: rest => amountsApart true rest
  | free, .blanks :: rest => amountsApart free rest
  | free, .boundary :: rest => amountsApart free rest
  | _, .symbol c :: rest => amountsApart (separates c) rest
  | _, .letter _ :: rest => amountsApart false rest

theorem separates_blank {c : Char} (h : isBlank c = true) :
    separates c = true := by
  have hpoint : (c == '.') = false := by
    rw [beq_eq_false_iff_ne]
    rintro rfl
    cases h
  rw [separates, not_isWordChar_of_isBlank h, hpoint]
  rfl

theorem blocksNumeral_separates
    {c : Char} (h : separates c = true) (before : List Char) :
    blocksNumeral (before ++ [c]) = false := by
  rw [blocksNumeral_append (List.cons_ne_nil _ _)]
  exact (Bool.not_eq_true' _).mp h

theorem continuesNumber_separates
    {c : Char} (h : separates c = true) (rest : List Char) :
    continuesNumber (c :: rest) = false := by
  have hboth := (Bool.not_eq_true' _).mp h
  rw [Bool.or_eq_false_iff, beq_eq_false_iff_ne] at hboth
  rw [continuesNumber_eq_false]
  refine ⟨fun d hd => Option.some.inj hd ▸ hboth.1, ?_⟩
  intro d others heq
  exact absurd (List.cons.inj heq).1 hboth.2

def StartsFree (place : Place) : Prop :=
  place.rest.head?.any isDigit = true -> blocksNumeral place.before = false

def EndsFree (place : Place) : Prop :=
  place.before.getLast?.any isDigit = true -> continuesNumber place.rest = false

theorem startsFree_of_separates
    {first last : Place} {c : Char} (h : separates c = true) (hreads : first.Reads [c] last) :
    StartsFree last := by
  intro _
  rw [hreads.before]
  exact blocksNumeral_separates h first.before

theorem startsFree_of_blanks
    {first last : Place} (hblanks : first.ReadsBlanks last)
    (h : last = first -> StartsFree last) :
    StartsFree last := by
  rcases hblanks with ⟨part, hreads, hpart⟩
  rcases List.eq_nil_or_concat part with hnil | ⟨front, c, hconcat⟩
  · rw [hnil, Place.Reads.nil_iff] at hreads
    exact h hreads
  · intro _
    rw [hreads.before, hconcat, List.concat_eq_append, ← List.append_assoc]
    apply blocksNumeral_separates
    apply separates_blank
    apply hpart
    rw [hconcat, List.concat_eq_append]
    exact List.mem_append_right _ List.mem_cons_self

theorem hasNumeral_of_readsAmount
    {first last : Place} {digits : Digits} (h : first.ReadsAmount digits last)
    (hfirst : StartsFree first) (hlast : EndsFree last) :
    HasNumeral first.text digits := by
  rcases h with ⟨middle, hdollar, hnumeral⟩
  have hdigits : digits.IsNumeral :=
    ⟨hnumeral.whole_ne_nil, hnumeral.whole, hnumeral.fraction, hnumeral.fraction_length⟩
  have hreads : middle.Reads digits.text last := hnumeral.reads
  have hfresh : blocksNumeral middle.before = false := by
    rcases hdollar with hplace | hdollar
    · rcases hdigits.text_head with ⟨c, rest, htext, hc⟩
      rw [hplace]
      apply hfirst
      rw [← hplace, hreads.rest, htext]
      exact hc
    · rw [hdollar.before]
      exact blocksNumeral_separates (by decide) first.before
  have hends : continuesNumber last.rest = false := by
    rcases hdigits.text_last with ⟨front, c, htext, hc⟩
    apply hlast
    rw [hreads.before, htext, ← List.append_assoc, List.getLast?_concat]
    exact hc
  rw [← hdollar.text_eq]
  exact (readsNumeral_iff.mpr ⟨hdigits, hreads, hfresh, hends⟩).hasNumeral

section Findings

variable {first last : Place} {value : Unit}

theorem eq_of_finds_boundary (h : Finds boundary first value last) :
    last = first := by
  rcases h with ⟨part, hbefore, hhit⟩
  unfold boundary at hhit
  split at hhit
  · injection Option.some.inj hhit with _ hpart hrest
    ext1
    · rw [hbefore, ← hpart, List.append_nil]
    · exact hrest.symm
  · cases hhit

theorem readsBlanks_of_finds (h : Finds someBlanks first value last) :
    first.ReadsBlanks last ∧ last ≠ first := by
  have hbind : someBlanks = someWhere isBlank >>= fun _ => pure () := rfl
  rw [hbind, finds_bind] at h
  rcases h with ⟨run, middle, hrun, hpure⟩
  rcases finds_someWhere.mp hrun with ⟨hreads, hne, hblank, _⟩
  rw [(finds_pure.mp hpure).2]
  refine ⟨⟨run, hreads, hblank⟩, ?_⟩
  intro hplace
  rw [hplace] at hreads
  exact hne (List.append_right_eq_self.mp hreads.before.symm)

theorem finds_map
    {α β : Type} {f : α -> β} {pattern : Pattern α} {result : β} :
    Finds (f <$> pattern) first result last <->
      exists inner : α, Finds pattern first inner last ∧ result = f inner := by
  rw [map_eq_pure_bind]
  simp only [finds_bind, finds_pure]
  constructor
  · rintro ⟨inner, middle, hinner, hresult, rfl⟩
    exact ⟨inner, hinner, hresult⟩
  · rintro ⟨inner, hinner, hresult⟩
    exact ⟨inner, last, hinner, hresult, rfl⟩

end Findings

theorem endsFree_of_blanks
    {first last : Place} (hblanks : first.ReadsBlanks last)
    (hlast : last = first -> EndsFree last) :
    EndsFree first := by
  rcases hblanks with ⟨part, hreads, hpart⟩
  cases part with
  | nil =>
      have hplace := Place.Reads.nil_iff.mp hreads
      rw [← hplace]
      exact hlast hplace
  | cons c part =>
      intro _
      rw [hreads.rest]
      exact continuesNumber_separates (separates_blank (hpart c List.mem_cons_self)) _

theorem endsFree_of_closesAmount
    {parts : List Part} (h : closesAmount parts = true) {first last : Place}
    {amounts : List Digits} (hfinds : Finds (readParts parts) first amounts last)
    (hlast : EndsFree last) :
    EndsFree first := by
  unfold closesAmount at h
  split at h
  · have hplace := (finds_pure.mp hfinds).2
    rw [← hplace]
    exact hlast
  · rw [readParts_someBlanks, finds_bind] at hfinds
    rcases hfinds with ⟨_, middle, hblanks, _⟩
    rcases readsBlanks_of_finds hblanks with ⟨hreads, hne⟩
    exact endsFree_of_blanks hreads fun hplace => absurd hplace hne
  · rw [readParts_blanks, finds_bind] at hfinds
    rcases hfinds with ⟨_, middle, hblanks, hrest⟩
    rw [readParts_symbol, finds_bind] at hrest
    rcases hrest with ⟨_, _, hsymbol, _⟩
    apply endsFree_of_blanks (finds_blanks.mp hblanks).1
    intro _ _
    rw [(finds_symbol.mp hsymbol).2.rest]
    exact continuesNumber_separates h _
  · cases h

/-- The amounts of a phrase stand free if no number reaches over its ends. -/
theorem amounts_standFree
    {parts : List Part} {free : Bool} (h : amountsApart free parts = true) {first last : Place}
    {amounts : List Digits} (hfinds : Finds (readParts parts) first amounts last)
    (hfirst : free = true -> StartsFree first) (hlast : EndsFree last) {digits : Digits}
    (hdigits : digits ∈ amounts) :
    HasNumeral first.text digits := by
  induction parts generalizing free first amounts with
  | nil =>
      rw [(finds_pure.mp hfinds).1] at hdigits
      cases hdigits
  | cons part rest ih =>
      cases part with
      | boundary =>
          rw [readParts_boundary, finds_bind] at hfinds
          rcases hfinds with ⟨_, middle, hboundary, hrest⟩
          rw [eq_of_finds_boundary hboundary] at hrest
          exact ih h hrest hfirst hdigits
      | letter letter =>
          rw [readParts_letter, finds_bind] at hfinds
          rcases hfinds with ⟨_, middle, hletter, hrest⟩
          rw [← (finds_charWhere.mp hletter).2.text_eq]
          exact ih h hrest nofun hdigits
      | symbol symbol =>
          rw [readParts_symbol, finds_bind] at hfinds
          rcases hfinds with ⟨_, middle, hsymbol, hrest⟩
          have hreads := (finds_symbol.mp hsymbol).2
          rw [← hreads.text_eq]
          exact ih h hrest (fun hfree => startsFree_of_separates hfree hreads) hdigits
      | someBlanks =>
          rw [readParts_someBlanks, finds_bind] at hfinds
          rcases hfinds with ⟨_, middle, hblanks, hrest⟩
          rcases readsBlanks_of_finds hblanks with ⟨hreads, hne⟩
          rw [← hreads.text_eq]
          exact ih h hrest
            (fun _ => startsFree_of_blanks hreads fun hplace => absurd hplace hne) hdigits
      | blanks =>
          rw [readParts_blanks, finds_bind] at hfinds
          rcases hfinds with ⟨_, middle, hblanks, hrest⟩
          have hreads := (finds_blanks.mp hblanks).1
          rw [← hreads.text_eq]
          exact ih h hrest
            (fun hfree => startsFree_of_blanks hreads fun hplace => hplace ▸ hfirst hfree) hdigits
      | amount =>
          rw [amountsApart, Bool.and_eq_true, Bool.and_eq_true] at h
          rw [readParts_amount, finds_bind] at hfinds
          rcases hfinds with ⟨one, middle, hamount, hmap⟩
          rcases finds_map.mp hmap with ⟨others, hrest, hamounts⟩
          rw [hamounts] at hdigits
          have hreads := finds_amount.mp hamount
          rcases List.mem_cons.mp hdigits with hone | hother
          · rw [hone]
            exact hasNumeral_of_readsAmount hreads (hfirst h.1.1)
              (endsFree_of_closesAmount h.1.2 hrest hlast)
          · rcases hreads with ⟨start, hdollar, hnumeral⟩
            rw [← hdollar.text_eq, ← hnumeral.reads.text_eq]
            exact ih h.2 hrest nofun hother

end Phrase

end CatalogSearch
