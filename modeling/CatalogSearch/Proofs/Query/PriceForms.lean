import CatalogSearch.Proofs.Query.Agreement
import CatalogSearch.Proofs.Query.WholeAmounts

/-!
# Price forms in a text that goes on

Each form of a price begins at a place and ends behind a numeral.  It reads the same if the
text goes on with white space and has no further digit, and what is read before the end of a
text does not depend on what follows.  So a text has the forms of a price that its beginning
has, if the rest of it begins with white space and shows no digit.
-/

namespace CatalogSearch

open Text Pattern

/-!
## The span of a form
-/

inductive PriceForm
  | marked
  | range
  | comparison

namespace PriceForm

def Stands : PriceForm -> Place -> PricePredicate -> Prop
  | marked => Place.MarkedPrice
  | range => Place.BareRange
  | comparison => Place.BareComparison

/-- From where a form begins to where one of its numerals ends: the first one behind a mark, the
last one otherwise. -/
inductive Spans : PriceForm -> Place -> Place -> Prop where
  | marked {sign : Option Comparison} {low : Digits} {first last : Place} :
      first.ReadsMarked sign low last -> Spans marked first last
  | range {low high : Digits} {first a b c d last : Place} :
      first.ReadsNumeral low a -> a.ReadsBlanks b -> b.Reads ['-'] c -> c.ReadsGap d ->
      d.ReadsNumeral high last -> Spans range first last
  | comparison {op : Comparison} {value : Digits} {first a b last : Place} :
      first.Reads op.sign a -> a.ReadsGap b -> b.ReadsNumeral value last ->
      Spans comparison first last

theorem exists_spans
    {form : PriceForm} {first : Place} {condition : PricePredicate}
    (h : form.Stands first condition) :
    exists last : Place, form.Spans first last := by
  cases form with
  | marked =>
      cases h with
      | range hmarked _ => exact ⟨_, .marked hmarked⟩
      | comparison hmarked _ => exact ⟨_, .marked hmarked⟩
  | range =>
      cases h with
      | intro hlow hb hc hd hhigh => exact ⟨_, .range hlow hb hc hd hhigh⟩
  | comparison =>
      cases h with
      | intro ha hb hvalue => exact ⟨_, .comparison ha hb hvalue⟩

theorem stands_of_spans
    {form : PriceForm} {first last : Place} (h : form.Spans first last) :
    exists condition : PricePredicate, form.Stands first condition := by
  cases h with
  | @marked sign low first last hmarked =>
      by_cases hsecond : exists (high : Digits) (b : Place), last.ReadsSecond high b
      · rcases hsecond with ⟨high, b, hhigh⟩
        exact ⟨_, .range hmarked hhigh⟩
      · exact ⟨_, .comparison hmarked fun high b hhigh => hsecond ⟨high, b, hhigh⟩⟩
  | range hlow hb hc hd hhigh => exact ⟨_, .intro hlow hb hc hd hhigh⟩
  | comparison ha hb hvalue => exact ⟨_, .intro ha hb hvalue⟩

theorem occurs_iff
    {form : PriceForm} {text : List Char} :
    Occurs form.Stands text <->
      exists first last : Place, first.text = text ∧ form.Spans first last := by
  constructor
  · rintro ⟨first, condition, htext, hstands⟩
    rcases exists_spans hstands with ⟨last, hspans⟩
    exact ⟨first, last, htext, hspans⟩
  · rintro ⟨first, last, htext, hspans⟩
    rcases stands_of_spans hspans with ⟨condition, hstands⟩
    exact ⟨first, condition, htext, hstands⟩

end PriceForm

/-!
## Reading in a longer text
-/

structure Quiet (tail : List Char) : Prop where
  head : forall c : Char, tail.head? = some c -> isBlank c = true
  digits : forall c : Char, c ∈ tail -> isDigit c = false

theorem quiet_cons
    {blank : Char} {tail : List Char} (hblank : isBlank blank = true)
    (h : forall c : Char, c ∈ tail -> isDigit c = false) :
    Quiet (blank :: tail) :=
  ⟨fun _ hc => Option.some.inj hc ▸ hblank,
    List.forall_mem_cons.mpr ⟨not_isDigit_of_isBlank blank hblank, h⟩⟩

namespace Place

def extend (place : Place) (tail : List Char) : Place :=
  ⟨place.before, place.rest ++ tail⟩

variable {first last first' last' : Place} {tail : List Char}

@[simp] theorem extend_before (place : Place) (tail : List Char) :
    (place.extend tail).before = place.before := rfl

@[simp] theorem extend_rest (place : Place) (tail : List Char) :
    (place.extend tail).rest = place.rest ++ tail := rfl

@[simp] theorem extend_text (place : Place) (tail : List Char) :
    (place.extend tail).text = place.text ++ tail :=
  (List.append_assoc _ _ _).symm

theorem exists_extend
    {text : List Char} (htext : last'.text = text ++ tail)
    (hlength : last'.before.length ≤ text.length) :
    exists last : Place, last' = last.extend tail ∧ last.text = text := by
  rcases List.append_eq_append_iff.mp htext with ⟨rest, hsplit, hrest⟩ | ⟨rest, hbefore, hsplit⟩
  · refine ⟨⟨last'.before, rest⟩, ?_, hsplit.symm⟩
    exact Place.ext rfl hrest
  · have hnil : rest = [] := by
      rw [hbefore, List.length_append] at hlength
      exact List.length_eq_zero_iff.mp (by omega)
    rw [hnil, List.append_nil] at hbefore
    rw [hnil, List.nil_append] at hsplit
    refine ⟨⟨last'.before, []⟩, Place.ext rfl hsplit.symm, ?_⟩
    rw [← hbefore]
    exact List.append_nil _

theorem Reads.lengthen
    {part : List Char} (h : first.Reads part last) (tail : List Char) :
    (first.extend tail).Reads part (last.extend tail) := by
  refine ⟨h.before, ?_⟩
  rw [extend_rest, extend_rest, h.rest, List.append_assoc]

theorem Reads.shorten
    {part : List Char} (h : first'.Reads part (last.extend tail)) :
    exists first : Place, first' = first.extend tail ∧ first.Reads part last := by
  refine ⟨⟨first'.before, part ++ last.rest⟩, ?_, h.before, rfl⟩
  refine Place.ext rfl ?_
  rw [h.rest, extend_rest, extend_rest, List.append_assoc]

theorem ReadsBlanks.lengthen (h : first.ReadsBlanks last) (tail : List Char) :
    (first.extend tail).ReadsBlanks (last.extend tail) := by
  rcases h with ⟨part, hreads, hblank⟩
  exact ⟨part, hreads.lengthen tail, hblank⟩

theorem ReadsBlanks.shorten (h : first'.ReadsBlanks (last.extend tail)) :
    exists first : Place, first' = first.extend tail ∧ first.ReadsBlanks last := by
  rcases h with ⟨part, hreads, hblank⟩
  rcases hreads.shorten with ⟨first, hfirst, hpart⟩
  exact ⟨first, hfirst, part, hpart, hblank⟩

theorem ReadsDollar.lengthen (h : first.ReadsDollar last) (tail : List Char) :
    (first.extend tail).ReadsDollar (last.extend tail) := by
  rcases h with heq | hreads
  · exact Or.inl (congrArg (extend · tail) heq)
  · exact Or.inr (hreads.lengthen tail)

theorem ReadsDollar.shorten (h : first'.ReadsDollar (last.extend tail)) :
    exists first : Place, first' = first.extend tail ∧ first.ReadsDollar last := by
  rcases h with heq | hreads
  · exact ⟨last, heq.symm, Or.inl rfl⟩
  · rcases hreads.shorten with ⟨first, hfirst, hpart⟩
    exact ⟨first, hfirst, Or.inr hpart⟩

theorem ReadsGap.lengthen (h : first.ReadsGap last) (tail : List Char) :
    (first.extend tail).ReadsGap (last.extend tail) := by
  cases h with
  | intro ha hb hc => exact .intro (ha.lengthen tail) (hb.lengthen tail) (hc.lengthen tail)

theorem ReadsGap.shorten (h : first'.ReadsGap (last.extend tail)) :
    exists first : Place, first' = first.extend tail ∧ first.ReadsGap last := by
  cases h with
  | intro ha hb hc =>
      rcases hc.shorten with ⟨b, rfl, hc'⟩
      rcases hb.shorten with ⟨a, rfl, hb'⟩
      rcases ha.shorten with ⟨first, hfirst, ha'⟩
      exact ⟨first, hfirst, .intro ha' hb' hc'⟩

theorem ReadsMark.lengthen (h : first.ReadsMark last) (tail : List Char) :
    (first.extend tail).ReadsMark (last.extend tail) := by
  rcases h with ⟨part, hreads, hletters⟩
  exact ⟨part, hreads.lengthen tail, hletters⟩

theorem ReadsMark.shorten (h : first'.ReadsMark (last.extend tail)) :
    exists first : Place, first' = first.extend tail ∧ first.ReadsMark last := by
  rcases h with ⟨part, hreads, hletters⟩
  rcases hreads.shorten with ⟨first, hfirst, hpart⟩
  exact ⟨first, hfirst, part, hpart, hletters⟩

theorem ReadsSign.lengthen
    {sign : Option Comparison} (h : first.ReadsSign sign last) (tail : List Char) :
    (first.extend tail).ReadsSign sign (last.extend tail) := by
  cases sign with
  | none => exact congrArg (extend · tail) h
  | some op => exact Reads.lengthen h tail

theorem ReadsSign.shorten
    {sign : Option Comparison} (h : first'.ReadsSign sign (last.extend tail)) :
    exists first : Place, first' = first.extend tail ∧ first.ReadsSign sign last := by
  cases sign with
  | none => exact ⟨last, Eq.symm h, rfl⟩
  | some op => exact Reads.shorten h

theorem continuesNumber_blank
    {rest : List Char} (h : continuesNumber rest = false)
    (hblank : forall c : Char, tail.head? = some c -> isBlank c = true) :
    continuesNumber (rest ++ tail) = false := by
  cases tail with
  | nil =>
      rw [List.append_nil]
      exact h
  | cons c tail =>
      have hc := hblank c rfl
      cases rest with
      | nil => exact Phrase.continuesNumber_separates (Phrase.separates_blank hc) tail
      | cons d rest =>
          apply continuesNumber_append h (List.cons_ne_nil d rest)
          exact fun _ => not_isDigit_of_isBlank c hc

theorem ReadsNumeral.lengthen
    {digits : Digits} (h : first.ReadsNumeral digits last)
    (hblank : forall c : Char, tail.head? = some c -> isBlank c = true) :
    (first.extend tail).ReadsNumeral digits (last.extend tail) := by
  rw [readsNumeral_iff] at h ⊢
  rcases h with ⟨hdigits, hreads, hfresh, hends⟩
  exact ⟨hdigits, hreads.lengthen tail, hfresh, continuesNumber_blank hends hblank⟩

theorem ReadsNumeral.shorten
    {digits : Digits} (h : first'.ReadsNumeral digits (last.extend tail)) :
    exists first : Place, first' = first.extend tail ∧ first.ReadsNumeral digits last := by
  rw [readsNumeral_iff] at h
  rcases h with ⟨hdigits, hreads, hfresh, hends⟩
  rcases hreads.shorten with ⟨first, hfirst, hpart⟩
  rw [hfirst] at hfresh
  exact ⟨first, hfirst,
    readsNumeral_iff.mpr ⟨hdigits, hpart, hfresh, continuesNumber_left hends⟩⟩

theorem ReadsMarked.lengthen
    {sign : Option Comparison} {low : Digits} (h : first.ReadsMarked sign low last)
    (hblank : forall c : Char, tail.head? = some c -> isBlank c = true) :
    (first.extend tail).ReadsMarked sign low (last.extend tail) := by
  cases h with
  | intro ha hb hc hd he hlow =>
      exact .intro (ha.lengthen tail) (hb.lengthen tail) (hc.lengthen tail) (hd.lengthen tail)
        (he.lengthen tail) (hlow.lengthen hblank)

theorem ReadsMarked.shorten
    {sign : Option Comparison} {low : Digits}
    (h : first'.ReadsMarked sign low (last.extend tail)) :
    exists first : Place, first' = first.extend tail ∧ first.ReadsMarked sign low last := by
  cases h with
  | intro ha hb hc hd he hlow =>
      rcases hlow.shorten with ⟨e, rfl, hlow'⟩
      rcases he.shorten with ⟨d, rfl, he'⟩
      rcases hd.shorten with ⟨c, rfl, hd'⟩
      rcases hc.shorten with ⟨b, rfl, hc'⟩
      rcases hb.shorten with ⟨a, rfl, hb'⟩
      rcases ha.shorten with ⟨first, hfirst, ha'⟩
      exact ⟨first, hfirst, .intro ha' hb' hc' hd' he' hlow'⟩

theorem ReadsNumeral.last_digit
    {digits : Digits} (h : first.ReadsNumeral digits last) :
    last.before.getLast?.any isDigit = true := by
  rcases readsNumeral_iff.mp h with ⟨hdigits, hreads, _⟩
  rcases hdigits.text_last with ⟨front, c, htext, hc⟩
  rw [hreads.before, htext, ← List.append_assoc, List.getLast?_concat]
  exact hc

end Place

namespace PriceForm

open Place

variable {form : PriceForm} {first last : Place} {tail : List Char}

theorem Spans.lengthen
    (h : form.Spans first last)
    (hblank : forall c : Char, tail.head? = some c -> isBlank c = true) :
    form.Spans (first.extend tail) (last.extend tail) := by
  cases h with
  | marked hmarked => exact .marked (hmarked.lengthen hblank)
  | range hlow hb hc hd hhigh =>
      exact .range (hlow.lengthen hblank) (hb.lengthen tail) (hc.lengthen tail) (hd.lengthen tail)
        (hhigh.lengthen hblank)
  | comparison ha hb hvalue =>
      exact .comparison (ha.lengthen tail) (hb.lengthen tail) (hvalue.lengthen hblank)

theorem Spans.shorten {first' : Place} (h : form.Spans first' (last.extend tail)) :
    exists first : Place, first' = first.extend tail ∧ form.Spans first last := by
  generalize hlast : last.extend tail = last' at h
  cases h with
  | marked hmarked =>
      rw [← hlast] at hmarked
      rcases hmarked.shorten with ⟨first, hfirst, hmarked'⟩
      exact ⟨first, hfirst, .marked hmarked'⟩
  | range hlow hb hc hd hhigh =>
      rw [← hlast] at hhigh
      rcases hhigh.shorten with ⟨d, rfl, hhigh'⟩
      rcases hd.shorten with ⟨c, rfl, hd'⟩
      rcases hc.shorten with ⟨b, rfl, hc'⟩
      rcases hb.shorten with ⟨a, rfl, hb'⟩
      rcases hlow.shorten with ⟨first, hfirst, hlow'⟩
      exact ⟨first, hfirst, .range hlow' hb' hc' hd' hhigh'⟩
  | comparison ha hb hvalue =>
      rw [← hlast] at hvalue
      rcases hvalue.shorten with ⟨b, rfl, hvalue'⟩
      rcases hb.shorten with ⟨a, rfl, hb'⟩
      rcases ha.shorten with ⟨first, hfirst, ha'⟩
      exact ⟨first, hfirst, .comparison ha' hb' hvalue'⟩

theorem Spans.text_eq (h : form.Spans first last) :
    last.text = first.text := by
  cases h with
  | marked hmarked => exact hmarked.hasNumeral.2
  | range hlow hb hc hd hhigh =>
      rw [hhigh.reads.text_eq, hd.text_eq, hc.text_eq, hb.text_eq, hlow.reads.text_eq]
  | comparison ha hb hvalue => rw [hvalue.reads.text_eq, hb.text_eq, ha.text_eq]

theorem Spans.last_digit (h : form.Spans first last) :
    last.before.getLast?.any isDigit = true := by
  cases h with
  | marked hmarked =>
      cases hmarked with
      | intro _ _ _ _ _ hlow => exact hlow.last_digit
  | range _ _ _ _ hhigh => exact hhigh.last_digit
  | comparison _ _ hvalue => exact hvalue.last_digit

theorem occurs_of_spans
    {text : List Char} (h : form.Spans first last) (htext : first.text = text ++ tail)
    (hlength : last.before.length ≤ text.length) :
    Occurs form.Stands text := by
  rcases exists_extend (h.text_eq.trans htext) hlength with ⟨last, rfl, hlast⟩
  rcases h.shorten with ⟨first, rfl, hspans⟩
  exact occurs_iff.mpr ⟨first, last, hspans.text_eq ▸ hlast, hspans⟩

/-- White space without a further digit makes no form of a price and breaks none. -/
theorem occurs_append_iff
    (form : PriceForm) (text : List Char) (hquiet : Quiet tail) :
    Occurs form.Stands (text ++ tail) <-> Occurs form.Stands text := by
  constructor
  · intro h
    rcases occurs_iff.mp h with ⟨first, last, htext, hspans⟩
    apply occurs_of_spans hspans htext
    by_contra hbeyond
    have hdigit := hspans.last_digit
    have hsplit := (hspans.text_eq.trans htext).symm
    rcases List.append_eq_append_iff.mp hsplit with ⟨rest, hbefore, htail⟩ | ⟨rest, hfront, _⟩
    · have hne : rest ≠ [] := by
        rintro rfl
        rw [hbefore, List.append_nil] at hbeyond
        exact hbeyond (Nat.le_refl _)
      rw [hbefore, List.getLast?_append_of_ne_nil text hne, List.getLast?_eq_some_getLast hne,
        Option.any_some, hquiet.digits _ (htail ▸ List.mem_append_left _ (List.getLast_mem hne))]
        at hdigit
      cases hdigit
    · rw [hfront, List.length_append] at hbeyond
      omega
  · intro h
    rcases occurs_iff.mp h with ⟨first, last, htext, hspans⟩
    exact occurs_iff.mpr ⟨first.extend tail, last.extend tail, by rw [extend_text, htext],
      hspans.lengthen hquiet.head⟩

theorem not_occurs_of_digits
    {text : List Char} (h : forall c : Char, c ∈ text -> isDigit c = false) :
    ¬ Occurs form.Stands text := by
  intro hoccurs
  rcases occurs_iff.mp hoccurs with ⟨first, last, htext, hspans⟩
  have hdigit := hspans.last_digit
  cases hlast : last.before.getLast? with
  | none =>
      rw [hlast] at hdigit
      cases hdigit
  | some c =>
      have hmem : c ∈ text := by
        rw [← htext, ← hspans.text_eq]
        exact List.mem_append_left _ (List.mem_of_getLast? hlast)
      rw [hlast, Option.any_some, h c hmem] at hdigit
      cases hdigit

end PriceForm

/-!
## What a form reads

Behind the mark of a price only numbers, signs and white space are read, so that a form reaches
over no other letter or colon than those of its mark.
-/

def IsFormChar (c : Char) : Prop :=
  c = '-' ∨ IsComparisonChar c

namespace Place

def ReadsFormChars (first last : Place) : Prop :=
  exists part : List Char, first.Reads part last ∧ forall c : Char, c ∈ part -> IsFormChar c

variable {first middle last : Place}

theorem readsFormChars_refl (place : Place) :
    place.ReadsFormChars place :=
  ⟨[], Reads.nil_iff.mpr rfl, nofun⟩

theorem ReadsFormChars.trans (hfront : first.ReadsFormChars middle)
    (hback : middle.ReadsFormChars last) :
    first.ReadsFormChars last := by
  rcases hfront with ⟨front, hfront, hfrontChars⟩
  rcases hback with ⟨back, hback, hbackChars⟩
  refine ⟨front ++ back, hfront.trans hback, ?_⟩
  intro c hc
  exact (List.mem_append.mp hc).elim (hfrontChars c) (hbackChars c)

theorem ReadsBlanks.formChars (h : first.ReadsBlanks last) :
    first.ReadsFormChars last := by
  rcases h with ⟨part, hreads, hblank⟩
  exact ⟨part, hreads, fun c hc =>
    Or.inr (Or.inr (Or.inr (Or.inr (isAmountChar_of_isBlank c (hblank c hc)))))⟩

theorem ReadsDollar.formChars (h : first.ReadsDollar last) :
    first.ReadsFormChars last := by
  rcases h with rfl | hreads
  · exact readsFormChars_refl _
  · refine ⟨_, hreads, ?_⟩
    rw [List.forall_mem_singleton]
    exact Or.inr (Or.inr (Or.inr (Or.inr (Or.inl rfl))))

theorem ReadsGap.formChars (h : first.ReadsGap last) :
    first.ReadsFormChars last := by
  cases h with
  | intro ha hb hc => exact (ha.formChars.trans hb.formChars).trans hc.formChars

theorem readsFormChars_sign {op : Comparison} (h : first.Reads op.sign last) :
    first.ReadsFormChars last := by
  refine ⟨_, h, ?_⟩
  have hsigns : op.sign.all fun c => c == '<' || c == '>' || c == '=' := by
    cases op <;> decide
  intro c hc
  have hsign := List.all_eq_true.mp hsigns c hc
  rw [Bool.or_eq_true, Bool.or_eq_true, beq_iff_eq, beq_iff_eq, beq_iff_eq] at hsign
  rcases hsign with (hless | hgreater) | hequal
  · exact Or.inr (Or.inl hless)
  · exact Or.inr (Or.inr (Or.inl hgreater))
  · exact Or.inr (Or.inr (Or.inr (Or.inl hequal)))

theorem ReadsNumeral.formChars {digits : Digits} (h : first.ReadsNumeral digits last) :
    first.ReadsFormChars last := by
  rcases readsNumeral_iff.mp h with ⟨hdigits, hreads, _⟩
  refine ⟨_, hreads, ?_⟩
  intro c hc
  rcases (Bool.or_eq_true _ _).mp (hdigits.isNumberChar hc) with hdigit | hpoint
  · exact Or.inr (Or.inr (Or.inr (Or.inr (isAmountChar_of_isDigit c hdigit))))
  · exact Or.inr (Or.inr (Or.inr (Or.inr (Or.inr (Or.inl (beq_iff_eq.mp hpoint))))))

end Place

namespace PriceForm

open Place

variable {form : PriceForm} {first last : Place}

/-- Behind the mark, where there is one, a form reads nothing but its characters. -/
theorem Spans.parts (h : form.Spans first last) :
    exists middle : Place, (middle = first ∨ first.ReadsMark middle) ∧
      middle.ReadsFormChars last := by
  cases h with
  | @marked sign low first last hmarked =>
      cases hmarked with
      | @intro a b c d e ha hb hc hd he hlow =>
          have hsign : b.ReadsFormChars c := by
            cases sign with
            | none =>
                have heq : c = b := hc
                rw [heq]
                exact readsFormChars_refl b
            | some op => exact readsFormChars_sign hc
          exact ⟨a, Or.inr ha, (((hb.formChars.trans hsign).trans hd.formChars).trans
            he.formChars).trans hlow.formChars⟩
  | range hlow hb hc hd hhigh =>
      have hhyphen := ReadsFormChars.trans ⟨_, hc, by simp [IsFormChar]⟩ hd.formChars
      exact ⟨first, Or.inl rfl,
        ((hlow.formChars.trans hb.formChars).trans hhyphen).trans hhigh.formChars⟩
  | comparison ha hb hvalue =>
      exact ⟨first, Or.inl rfl, ((readsFormChars_sign ha).trans hb.formChars).trans
        hvalue.formChars⟩

theorem exists_letter
    {list part : List Char}
    (h : List.Forall₂ (fun letter c => sameLetter letter c = true) list part) {c : Char}
    (hc : c ∈ part) :
    exists letter : Char, letter ∈ list ∧ sameLetter letter c = true := by
  induction h with
  | nil => cases hc
  | @cons letter d list part hfirst _ ih =>
      rcases List.mem_cons.mp hc with rfl | hmem
      · exact ⟨letter, List.mem_cons_self, hfirst⟩
      · rcases ih hmem with ⟨other, hother, hsame⟩
        exact ⟨other, List.mem_cons_of_mem letter hother, hsame⟩

theorem solid_of_letters
    {list part : List Char}
    (h : List.Forall₂ (fun letter c => sameLetter letter c = true) list part)
    (hlist : (list.all fun letter => !isBlank letter) = true) {c : Char} (hc : c ∈ part) :
    isBlank c = false := by
  rcases exists_letter h hc with ⟨letter, hletter, hsame⟩
  rcases Bool.eq_false_or_eq_true letter.isLower with hlower | hsymbol
  · exact not_isBlank_of_sameLetter hlower hsame
  · rw [sameLetter_symbol hsymbol hsame]
    exact (Bool.not_eq_true' _).mp (List.all_eq_true.mp hlist letter hletter)

theorem reads_unique
    {part part' : List Char} (h : first.Reads part last) (h' : first.Reads part' last) :
    part' = part :=
  List.append_cancel_left (h'.before.symm.trans h.before)

/-- The letters of a form are those of its mark, of which only the first is a `p`. -/
theorem Spans.p_first
    (h : form.Spans first last) {c : Char} {part : List Char}
    (hreads : first.Reads (c :: part) last) :
    'p' ∉ part := by
  rcases h.parts with ⟨middle, hmark, rest, hrest, hchars⟩
  have hnot : ¬ IsFormChar 'p' := by
    rintro (hhyphen | hcomparison)
    · cases hhyphen
    · exact not_isComparisonChar_p (by decide) hcomparison
  rcases hmark with rfl | ⟨mark, hreadsMark, hletters⟩
  · have hpart := reads_unique hreads hrest
    intro hmem
    exact hnot (hchars 'p' (hpart ▸ List.mem_cons_of_mem c hmem))
  · have hpart := reads_unique hreads (hreadsMark.trans hrest)
    cases mark with
    | nil => cases hletters
    | cons d mark =>
        cases hletters with
        | cons _ hletters =>
            intro hmem
            rw [← (List.cons.inj hpart).2] at hmem
            rcases List.mem_append.mp hmem with hmark | hlast
            · rcases exists_letter hletters hmark with ⟨letter, hletter, hsame⟩
              have hother : ("rice:".toList.all fun letter => !sameLetter letter 'p') = true := by
                decide
              have hno := List.all_eq_true.mp hother letter hletter
              rw [hsame] at hno
              cases hno
            · exact hnot (hchars 'p' hlast)

/-- What stands between white space and a colon is no part of a form, and no form begins with a
colon. -/
theorem Spans.not_colon
    (h : form.Spans first last) {front back : List Char}
    (hfront : forall c : Char, front.getLast? = some c -> isBlank c = true) :
    ¬ first.Reads (front ++ ':' :: back) last := by
  intro hreads
  rcases h.parts with ⟨middle, hmark, rest, hrest, hchars⟩
  have hnot : ':' ∉ rest := by
    intro hmem
    rcases hchars ':' hmem with hc | hc | hc | hc | hc | hc | hc | hc
    all_goals
      revert hc
      decide
  rcases hmark with rfl | ⟨mark, hreadsMark, hletters⟩
  · rw [reads_unique hreads hrest] at hnot
    exact hnot (List.mem_append_right front List.mem_cons_self)
  · have hpart := reads_unique hreads (hreadsMark.trans hrest)
    have hsolid : forall c : Char, c ∈ mark -> isBlank c = false :=
      fun c hc => solid_of_letters hletters (by decide) hc
    rcases List.append_eq_append_iff.mp hpart with ⟨tail, _, hrestEq⟩ | ⟨tail, hmarkEq, htail⟩
    · rw [hrestEq] at hnot
      exact hnot (List.mem_append_right tail List.mem_cons_self)
    · cases tail with
      | nil =>
          rw [show rest = ':' :: back from htail.symm] at hnot
          exact hnot List.mem_cons_self
      | cons d tail =>
          rw [hmarkEq] at hletters hsolid
          rcases List.eq_nil_or_concat front with rfl | ⟨init, c, rfl⟩
          · rw [List.nil_append, ← (List.cons.inj htail).1] at hletters
            cases hletters with
            | cons hfirst _ => exact absurd hfirst (by decide)
          · rw [List.concat_eq_append] at hfront hsolid
            have hblank := hfront c List.getLast?_concat
            rw [hsolid c (by simp)] at hblank
            cases hblank

theorem Spans.reads (h : form.Spans first last) :
    exists part : List Char, first.Reads part last := by
  rcases h.parts with ⟨middle, rfl | ⟨mark, hmark, _⟩, rest, hrest, _⟩
  · exact ⟨rest, hrest⟩
  · exact ⟨mark ++ rest, hmark.trans hrest⟩

theorem split_at
    {part front back : List Char} {c : Char} (hreads : first.Reads part last)
    (htext : first.text = front ++ c :: back) (hfirst : first.before.length ≤ front.length)
    (hlast : front.length < last.before.length) :
    exists left right : List Char, part = left ++ c :: right ∧ front = first.before ++ left := by
  rcases exists_extend htext hfirst with ⟨short, rfl, hfront⟩
  have hrest : short.rest ++ c :: back = part ++ last.rest := hreads.rest
  rcases List.append_eq_append_iff.mp hrest with ⟨tail, hpart, htail⟩ | ⟨tail, hleft, _⟩
  · cases tail with
    | nil =>
        rw [hreads.before, extend_before, hpart, List.append_nil, ← hfront] at hlast
        exact absurd hlast (Nat.lt_irrefl _)
    | cons d tail =>
        rw [← (List.cons.inj htail).1] at hpart
        exact ⟨short.rest, tail, hpart, hfront.symm⟩
  · rw [hreads.before, extend_before, ← hfront, Place.text, hleft] at hlast
    simp only [List.length_append] at hlast
    omega

/-- A mark in a text begins no earlier than at a `p` behind a part without marked prices. -/
theorem marked_begins
    {front back : List Char} (h : ¬ Occurs MarkedPrice front)
    (htext : first.text = front ++ 'p' :: back) (hspans : PriceForm.marked.Spans first last) :
    front.length ≤ first.before.length := by
  by_contra hbefore
  by_cases hlast : last.before.length ≤ front.length
  · exact h (occurs_of_spans hspans htext hlast)
  · rcases hspans.reads with ⟨part, hreads⟩
    rcases split_at hreads htext (by omega) (by omega) with ⟨left, right, hpart, hfront⟩
    cases left with
    | nil =>
        rw [hfront, List.append_nil] at hbefore
        exact hbefore (Nat.le_refl _)
    | cons c left =>
        rw [hpart] at hreads
        exact hspans.p_first hreads (List.mem_append_right left List.mem_cons_self)

/-- No form reaches over a colon behind white space. -/
theorem begins_behind_colon
    {front back : List Char} {blank : Char} (hblank : isBlank blank = true)
    (h : ¬ Occurs form.Stands front) (htext : first.text = front ++ blank :: ':' :: back)
    (hspans : form.Spans first last) :
    front.length + 2 ≤ first.before.length := by
  by_contra hbefore
  have hsplit : first.text = (front ++ [blank]) ++ ':' :: back := by
    rw [htext, List.append_assoc, List.singleton_append]
  have hlength : (front ++ [blank]).length = front.length + 1 := List.length_append
  by_cases hlast : last.before.length ≤ (front ++ [blank]).length
  · have hoccurs := occurs_of_spans hspans hsplit hlast
    rw [occurs_append_iff form front (quiet_cons hblank (List.forall_mem_nil _))] at hoccurs
    exact h hoccurs
  · rcases hspans.reads with ⟨part, hreads⟩
    rcases split_at hreads hsplit (by omega) (by omega) with ⟨left, right, hpart, hfront⟩
    rw [hpart] at hreads
    refine hspans.not_colon ?_ hreads
    intro c hc
    have hlastChar := congrArg List.getLast? hfront
    rw [List.getLast?_concat, List.getLast?_append, hc, Option.some_or] at hlastChar
    rw [← Option.some.inj hlastChar]
    exact hblank

end PriceForm

end CatalogSearch
