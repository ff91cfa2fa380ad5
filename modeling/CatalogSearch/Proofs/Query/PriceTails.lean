import CatalogSearch.Proofs.Query.PhraseCuts
import CatalogSearch.Proofs.Query.PhraseTails
import CatalogSearch.Proofs.Query.PriceConditions
import CatalogSearch.Proofs.Query.PriceForms

/-!
# The price of a text that goes on

No form of a price reaches over white space and a character behind it that is none of a form.
So where a text goes on with these, a price that stands in it stays the leftmost one.  Words
that show no digit and take part in no phrase leave the price of a text as it is.
-/

namespace CatalogSearch

open Text Pattern

/-!
## Where a text goes on
-/

inductive EndsForms : List Char -> Prop where
  | intro {blank c : Char} {rest : List Char} :
      isBlank blank = true -> ¬ IsFormChar c -> EndsForms (blank :: c :: rest)

theorem EndsForms.head {tail : List Char} (h : EndsForms tail) {c : Char}
    (hc : tail.head? = some c) :
    isBlank c = true := by
  cases h with
  | intro hblank _ => exact Option.some.inj hc ▸ hblank

namespace Place

variable {first last : Place} {front tail : List Char}

/-- What is read as characters of forms up to a digit ends in the text where it begins. -/
theorem ReadsFormChars.ends_within
    (h : first.ReadsFormChars last) (htail : EndsForms tail) (htext : first.text = front ++ tail)
    (hbegins : first.before.length ≤ front.length)
    (hdigit : last.before.getLast?.any isDigit = true) :
    last.before.length ≤ front.length := by
  by_contra hbeyond
  cases htail with
  | @intro blank c rest hblank hc =>
      rcases h with ⟨part, hreads, hchars⟩
      have htext' : first.text = (front ++ [blank]) ++ c :: rest := by
        rw [htext, List.append_assoc, List.singleton_append]
      have hlength : (front ++ [blank]).length = front.length + 1 := List.length_append
      -- the digit is not the white space, and what is read does not go on over the other character
      by_cases hlast : last.before.length = front.length + 1
      · have hbefore : last.before = front ++ [blank] :=
          List.append_inj_left (hreads.text_eq.trans htext') (hlast.trans hlength.symm)
        rw [hbefore, List.getLast?_concat, Option.any_some, not_isDigit_of_isBlank blank hblank]
          at hdigit
        cases hdigit
      · rcases PriceForm.split_at hreads htext' (by omega) (by omega) with ⟨left, right, hpart, _⟩
        apply hc
        apply hchars
        rw [hpart]
        exact List.mem_append_right left List.mem_cons_self

theorem ReadsSecond.formChars {high : Digits} (h : first.ReadsSecond high last) :
    first.ReadsFormChars last := by
  cases h with
  | intro ha hb hc hd hhigh =>
      have hhyphen : forall c : Char, c ∈ ['-'] -> IsFormChar c :=
        List.forall_mem_singleton.mpr (Or.inl rfl)
      exact (((ha.formChars.trans ⟨_, hb, hhyphen⟩).trans hc.formChars).trans hd.formChars).trans
        hhigh.formChars

theorem ReadsSecond.lengthen
    {high : Digits} (h : first.ReadsSecond high last)
    (hblank : forall c : Char, tail.head? = some c -> isBlank c = true) :
    (first.extend tail).ReadsSecond high (last.extend tail) := by
  cases h with
  | intro ha hb hc hd hhigh =>
      exact .intro (ha.lengthen tail) (hb.lengthen tail) (hc.lengthen tail) (hd.lengthen tail)
        (hhigh.lengthen hblank)

theorem ReadsSecond.shorten
    {first' : Place} {high : Digits} (h : first'.ReadsSecond high (last.extend tail)) :
    exists first : Place, first' = first.extend tail ∧ first.ReadsSecond high last := by
  cases h with
  | intro ha hb hc hd hhigh =>
      rcases hhigh.shorten with ⟨d, rfl, hhigh'⟩
      rcases hd.shorten with ⟨c, rfl, hd'⟩
      rcases hc.shorten with ⟨b, rfl, hc'⟩
      rcases hb.shorten with ⟨a, rfl, hb'⟩
      rcases ha.shorten with ⟨first, hfirst, ha'⟩
      exact ⟨first, hfirst, .intro ha' hb' hc' hd' hhigh'⟩

theorem ReadsSecond.of_extend
    {high : Digits} (h : (first.extend tail).ReadsSecond high last) (htail : EndsForms tail) :
    exists last' : Place, first.ReadsSecond high last' := by
  have hdigit : last.before.getLast?.any isDigit = true := by
    cases h with
    | intro _ _ _ _ hhigh => exact hhigh.last_digit
  have htext : last.text = first.text ++ tail := by
    rcases h.formChars with ⟨part, hreads, _⟩
    exact hreads.text_eq.trans (extend_text first tail)
  have hbegins : first.before.length ≤ first.text.length :=
    (List.prefix_append first.before first.rest).length_le
  have hends := h.formChars.ends_within htail (extend_text first tail) hbegins hdigit
  rcases exists_extend htext hends with ⟨last', rfl, _⟩
  rcases h.shorten with ⟨first', hfirst, hsecond⟩
  rcases Place.mk.inj hfirst with ⟨hbefore, hrest⟩
  rw [← Place.ext hbefore (List.append_cancel_right hrest)] at hsecond
  exact ⟨last', hsecond⟩

end Place

namespace PriceForm

open Place

variable {form : PriceForm} {first last : Place} {front tail : List Char}

theorem Spans.ends_within
    (h : form.Spans first last) (htail : EndsForms tail) (htext : first.text = front ++ tail)
    (hbegins : first.before.length ≤ front.length) :
    last.before.length ≤ front.length := by
  rcases h.parts with ⟨middle, hmark, hchars⟩
  have hmiddle : middle.text = first.text ∧ middle.before.length ≤ front.length := by
    rcases hmark with rfl | ⟨mark, hreads, hletters⟩
    · exact ⟨rfl, hbegins⟩
    · refine ⟨hreads.text_eq, ?_⟩
      by_contra hbeyond
      cases htail with
      | @intro blank c rest hblank _ =>
          rcases split_at hreads htext hbegins (by omega) with ⟨left, right, hpart, _⟩
          rw [solid_of_letters hletters (by decide) (hpart ▸ List.mem_append_right left
            List.mem_cons_self)] at hblank
          cases hblank
  exact hchars.ends_within htail (hmiddle.1.trans htext) hmiddle.2 h.last_digit

theorem stands_extend
    {condition : PricePredicate} (h : form.Stands first condition) (htail : EndsForms tail) :
    form.Stands (first.extend tail) condition := by
  cases form with
  | marked =>
      cases h with
      | range hmarked hsecond =>
          exact .range (hmarked.lengthen fun _ => htail.head) (hsecond.lengthen fun _ => htail.head)
      | comparison hmarked hnone =>
          refine .comparison (hmarked.lengthen fun _ => htail.head) ?_
          intro high last hsecond
          rcases hsecond.of_extend htail with ⟨last', hwithin⟩
          exact hnone high last' hwithin
  | range =>
      cases h with
      | intro hlow hb hc hd hhigh =>
          exact .intro (hlow.lengthen fun _ => htail.head) (hb.lengthen tail) (hc.lengthen tail)
            (hd.lengthen tail) (hhigh.lengthen fun _ => htail.head)
  | comparison =>
      cases h with
      | intro ha hb hvalue =>
          exact .intro (ha.lengthen tail) (hb.lengthen tail)
            (hvalue.lengthen fun _ => htail.head)

theorem leftmost_extend
    (form : PriceForm) {condition : PricePredicate} (h : Leftmost form.Stands front condition first)
    (htail : EndsForms tail) :
    Leftmost form.Stands (front ++ tail) condition (first.extend tail) := by
  refine ⟨by rw [extend_text, h.inText], stands_extend h.stands htail, ?_⟩
  intro other condition' htext hlt hother
  rcases exists_spans hother with ⟨last, hspans⟩
  have hbegins : other.before.length ≤ front.length := by
    have htotal := congrArg List.length h.inText
    rw [Place.text, List.length_append] at htotal
    rw [extend_before] at hlt
    omega
  -- an earlier form would end in the text and so would be an earlier one of the text itself
  have hends := hspans.ends_within htail htext hbegins
  rcases exists_extend (hspans.text_eq.trans htext) hends with ⟨short, rfl, hshort⟩
  rcases hspans.shorten with ⟨place, rfl, hwithin⟩
  rcases stands_of_spans hwithin with ⟨condition'', hstands⟩
  exact h.first place condition'' (hwithin.text_eq.symm.trans hshort) hlt hstands

/-- Behind white space and a colon a form stands leftmost, if none of its kind stands in front. -/
theorem leftmost_behind_colon
    (form : PriceForm) {condition : PricePredicate} {blank : Char} {rest : List Char}
    (hblank : isBlank blank = true) (habsent : ¬ Occurs form.Stands front)
    (hstands : form.Stands ⟨front ++ [blank, ':'], rest⟩ condition) :
    Leftmost form.Stands (front ++ blank :: ':' :: rest) condition
      ⟨front ++ [blank, ':'], rest⟩ := by
  refine ⟨by simp [Place.text], hstands, ?_⟩
  intro other condition' htext hlt hother
  rcases exists_spans hother with ⟨last, hspans⟩
  have hbegins := begins_behind_colon hblank habsent htext hspans
  rw [List.length_append] at hlt
  exact absurd hlt (Nat.not_lt.mpr hbegins)

/-- A form that stands only behind white space and a colon begins between them and what is quiet. -/
theorem spans_behind_colon
    (form : PriceForm) {body back : List Char} {blank : Char} (hblank : isBlank blank = true)
    (hquiet : Quiet back) (habsent : ¬ Occurs form.Stands front)
    (hoccurs : Occurs form.Stands (front ++ blank :: ':' :: (body ++ back))) :
    exists first last : Place, form.Spans first last ∧ first.rest <:+ body := by
  have hshort : front ++ blank :: ':' :: (body ++ back) =
      (front ++ blank :: ':' :: body) ++ back := by
    simp
  rw [hshort, occurs_append_iff form _ hquiet] at hoccurs
  rcases occurs_iff.mp hoccurs with ⟨first, last, htext, hspans⟩
  have hbegins := begins_behind_colon hblank habsent htext hspans
  refine ⟨first, last, hspans, ?_⟩
  have hrest : first.rest <:+ (front ++ [blank, ':']) ++ body := by
    refine ⟨first.before, htext.trans ?_⟩
    simp
  apply List.suffix_of_suffix_length_le hrest (List.suffix_append _ body)
  have htotal := congrArg List.length htext
  simp only [Place.text, List.length_append, List.length_cons] at htotal
  omega

end PriceForm

/-!
## Texts without a form of a price
-/

def HasNoForm (text : List Char) : Prop :=
  forall form : PriceForm, ¬ Occurs form.Stands text

theorem hasNoForm_of_digits
    {text : List Char} (h : forall c : Char, c ∈ text -> isDigit c = false) :
    HasNoForm text :=
  fun _ => PriceForm.not_occurs_of_digits h

theorem hasNoForm_append_iff
    {tail : List Char} (hquiet : Quiet tail) (text : List Char) :
    HasNoForm (text ++ tail) <-> HasNoForm text :=
  forall_congr' fun form => not_congr (PriceForm.occurs_append_iff form text hquiet)

theorem PriceCondition.not_hasNoForm
    {text : List Char} {condition : PricePredicate} (h : PriceCondition text condition) :
    ¬ HasNoForm text := by
  intro hnone
  rcases h.occurs with hmarked | hrange | hcomparison
  · exact hnone .marked hmarked
  · exact hnone .range hrange
  · exact hnone .comparison hcomparison

theorem exists_condition_or_hasNoForm (text : List Char) :
    (exists condition : PricePredicate, PriceCondition text condition) ∨ HasNoForm text := by
  rcases Reading.priceForms_spec text with ⟨condition, h, _⟩ | ⟨hmarked, hrange, hcomparison, _⟩
  · exact Or.inl ⟨condition, h⟩
  · right
    intro form
    cases form with
    | marked => exact hmarked
    | range => exact hrange
    | comparison => exact hcomparison

theorem exists_leftmost_marked
    {text : List Char} (h : Occurs Place.MarkedPrice text) :
    exists (condition : PricePredicate) (first : Place),
      Leftmost Place.MarkedPrice text condition first := by
  rcases exists_condition_or_hasNoForm text with ⟨condition, hcondition⟩ | hnone
  · cases hcondition with
    | marked hleft => exact ⟨condition, _, hleft⟩
    | range hmarked _ => exact absurd h hmarked
    | comparison hmarked _ _ => exact absurd h hmarked
  · exact absurd h (hnone .marked)

/-!
## Words that put no price
-/

theorem Phrase.not_isFormChar_of_opensOutsider
    {c : Char} (hopens : opensOutsider c = true) (hdigit : isDigit c = false) :
    ¬ IsFormChar c := by
  rintro (rfl | rfl | rfl | rfl | rfl | rfl | hc | hc)
  · exact absurd hopens (by decide)
  · exact absurd hopens (by decide)
  · exact absurd hopens (by decide)
  · exact absurd hopens (by decide)
  · exact absurd hopens (by decide)
  · exact absurd hopens (by decide)
  · rw [opensOutsider, hc] at hopens
    cases hopens
  · rw [hdigit] at hc
    cases hc

namespace Phrase.Outside

variable {tail : List Char} (h : Outside tail)

include h

theorem quiet : Quiet tail := by
  cases h with
  | intro hblank _ hdigits => exact quiet_cons hblank hdigits

theorem endsForms : EndsForms tail := by
  cases h with
  | intro hblank hopens hdigits =>
      exact .intro hblank (not_isFormChar_of_opensOutsider hopens (hdigits _ List.mem_cons_self))

end Phrase.Outside

theorem PriceCondition.extend
    {front tail : List Char} {condition : PricePredicate} (h : PriceCondition front condition)
    (htail : Phrase.Outside tail) :
    PriceCondition (front ++ tail) condition := by
  have habsent : forall {form : PriceForm}, ¬ Occurs form.Stands front ->
      ¬ Occurs form.Stands (front ++ tail) :=
    fun h hoccurs => h ((PriceForm.occurs_append_iff _ front htail.quiet).mp hoccurs)
  cases h with
  | marked hleft => exact .marked (PriceForm.leftmost_extend .marked hleft htail.endsForms)
  | range hmarked hleft =>
      exact .range (@habsent .marked hmarked)
        (PriceForm.leftmost_extend .range hleft htail.endsForms)
  | comparison hmarked hrange hleft =>
      exact .comparison (@habsent .marked hmarked) (@habsent .range hrange)
        (PriceForm.leftmost_extend .comparison hleft htail.endsForms)

namespace Reading

def textPrice (text : List Char) : Option PricePredicate :=
  (((priceForms text).findSome? fun form => form).map (·.value)).or
    ((Phrase.price? (lower (collapse text))).map Prod.fst)

theorem ofQuery_price (query : List Char) :
    (ofQuery query).criteria.price = textPrice (withoutId query) := by
  have hor : (ofQuery query).criteria.price = (ofExpressions query).criteria.price.or
      (ofPhrases (leftover query)).criteria.price := rfl
  rw [hor, textPrice, (ofPhrases_leftover query).1, ofExpressions_price]
  cases hfound : (priceForms (withoutId query)).findSome? fun form => form with
  | some found => rfl
  | none =>
      have hleftover : leftover query = lower (collapse (withoutId query)) := by
        rw [List.findSome?_eq_none_iff] at hfound
        simp only [priceForms, List.forall_mem_cons] at hfound
        unfold leftover ofExpressions
        simp only [splitId_snd, priceForms, hfound.1, hfound.2.1, hfound.2.2.1]
        rfl
      rw [hleftover]

theorem textPrice_of_condition
    {text : List Char} {condition : PricePredicate} (h : PriceCondition text condition) :
    textPrice text = some condition := by
  rcases priceForms_spec text with ⟨other, hother, hforms⟩ | ⟨hmarked, hrange, hcomparison, _⟩
  · rw [textPrice, hforms, h.unique hother, Option.some_or]
  · rcases h.occurs with hoccurs | hoccurs | hoccurs
    · exact absurd hoccurs hmarked
    · exact absurd hoccurs hrange
    · exact absurd hoccurs hcomparison

theorem textPrice_of_hasNoForm
    {text : List Char} (h : HasNoForm text) :
    textPrice text = (Phrase.price? (lower (collapse text))).map Prod.fst := by
  rcases priceForms_spec text with ⟨condition, hcondition, _⟩ | ⟨_, _, _, hforms⟩
  · exact absurd h hcondition.not_hasNoForm
  · rw [textPrice, hforms, Option.none_or]

theorem textPrice_of_digits
    {text : List Char} (h : forall c : Char, c ∈ text -> isDigit c = false) :
    textPrice text = none := by
  rw [textPrice_of_hasNoForm (hasNoForm_of_digits h),
    Phrase.price?_of_digits (digits_lower_collapse h)]

/-- A text puts the price that it puts without such words behind it. -/
theorem textPrice_outside
    {tail : List Char} (h : Phrase.Outside tail) (text : List Char) :
    textPrice (text ++ tail) = textPrice text := by
  rcases exists_condition_or_hasNoForm text with ⟨condition, hcondition⟩ | hnone
  · rw [textPrice_of_condition hcondition, textPrice_of_condition (hcondition.extend h)]
  · rw [textPrice_of_hasNoForm hnone,
      textPrice_of_hasNoForm ((hasNoForm_append_iff h.quiet text).mpr hnone),
      Phrase.price?_outside h]

end Reading

end CatalogSearch
