import CatalogSearch.Proofs.Query.CanonicalParts
import CatalogSearch.Proofs.Query.ShownPrice

/-!
# The price of the canonical text

The canonical text of a query is read again.  Its price stands behind a mark, so that it counts
before every price of the residual text that has no mark.
-/

namespace CatalogSearch

open Text Pattern

/-!
## Texts with a price behind a label
-/

namespace WritesAmounts

variable {body : List Char} {condition : PricePredicate} (h : WritesAmounts body condition)

include h

theorem chars : body ≠ [] ∧ forall c : Char, c ∈ body -> isBlank c = false ∧ IsFormChar c := by
  have hnumber : forall {digits : Digits}, digits.IsNumeral -> forall c : Char, c ∈ digits.text ->
      isBlank c = false ∧ IsFormChar c := by
    intro digits hdigits c hc
    have hchar := hdigits.isNumberChar hc
    refine ⟨not_isBlank_of_isNumberChar hchar, ?_⟩
    rcases (Bool.or_eq_true _ _).mp hchar with hdigit | hpoint
    · exact Or.inr (Or.inr (Or.inr (Or.inr (isAmountChar_of_isDigit c hdigit))))
    · exact Or.inr (Or.inr (Or.inr (Or.inr (Or.inr (Or.inl (beq_iff_eq.mp hpoint))))))
  have hamount : forall {amount : Amount}, amount.digits.IsNumeral ->
      amount.text ≠ [] ∧ forall c : Char, c ∈ amount.text -> isBlank c = false ∧ IsFormChar c := by
    intro amount hdigits
    unfold Amount.text
    cases amount.dollar with
    | false => exact ⟨hdigits.text_ne_nil, hnumber hdigits⟩
    | true =>
        exact ⟨List.cons_ne_nil _ _, List.forall_mem_cons.mpr
          ⟨⟨by decide, Or.inr (Or.inr (Or.inr (Or.inr (Or.inl rfl))))⟩, hnumber hdigits⟩⟩
  cases h with
  | @comparison op amount hvalue =>
      have hsign : (op.sign.all fun c => c == '<' || c == '>' || c == '=') = true := by
        cases op <;> decide
      refine ⟨List.append_ne_nil_of_right_ne_nil _ (hamount hvalue).1,
        List.forall_mem_append.mpr ⟨?_, (hamount hvalue).2⟩⟩
      intro c hc
      have hchar := List.all_eq_true.mp hsign c hc
      simp only [Bool.or_eq_true, beq_iff_eq] at hchar
      rcases hchar with (rfl | rfl) | rfl
      · exact ⟨by decide, Or.inr (Or.inl rfl)⟩
      · exact ⟨by decide, Or.inr (Or.inr (Or.inl rfl))⟩
      · exact ⟨by decide, Or.inr (Or.inr (Or.inr (Or.inl rfl)))⟩
  | @range low high hlow hhigh =>
      exact ⟨List.append_ne_nil_of_left_ne_nil (hamount hlow).1 _,
        List.forall_mem_append.mpr ⟨(hamount hlow).2, List.forall_mem_cons.mpr
          ⟨⟨by decide, Or.inl rfl⟩, (hamount hhigh).2⟩⟩⟩

theorem labelled :
    Labelled (' ' :: ("price".toList ++ ':' :: body)) := by
  have hlabel : "price".toList ∈ labels := by decide
  have hcolon : ':' ∉ body := fun hmem =>
    Phrase.not_isFormChar_of_opensOutsider (by decide) (by decide) (h.chars.2 ':' hmem).2
  have hbody := Labelled.cons hlabel h.chars.1
    (solidEnds_of_solid fun c hc => (h.chars.2 c hc).1) hcolon .nil
  rw [List.append_nil] at hbody
  exact hbody

end WritesAmounts

namespace Writes

variable {body : List Char} {condition : PricePredicate} (h : Writes body condition)

include h

/-- Behind a text without a marked price the condition behind its label counts. -/
theorem condition_marked
    {front back : List Char} (habsent : ¬ Occurs Place.MarkedPrice front) (hquiet : Quiet back)
    (hhyphen : '-' ∉ back) :
    PriceCondition (front ++ ("price:".toList ++ (body ++ back))) condition := by
  have hleft : Leftmost Place.MarkedPrice (front ++ ("price:".toList ++ (body ++ back))) condition
      ⟨front, "price:".toList ++ (body ++ back)⟩ := by
    refine ⟨rfl, h.markedPrice front hquiet hhyphen, ?_⟩
    intro other condition' htext hlt hother
    rcases @PriceForm.exists_spans .marked _ _ hother with ⟨last, hspans⟩
    have hbegins := PriceForm.marked_begins habsent htext hspans
    exact absurd hlt (Nat.not_lt.mpr hbegins)
  exact .marked hleft

omit h in
theorem blocksNumeral_colon (front : List Char) (blank : Char) :
    blocksNumeral (front ++ [blank, ':']) = false := by
  have hcolon : blocksNumeral [':'] = false := by decide
  rw [show front ++ [blank, ':'] = (front ++ [blank]) ++ [':'] by simp,
    blocksNumeral_append (List.cons_ne_nil ':' []), hcolon]

section Colon

variable {front back : List Char} {blank : Char} (hblank : isBlank blank = true)
  (hquiet : Quiet back)

include hblank hquiet

theorem not_marked_colon (habsent : ¬ Occurs Place.MarkedPrice front) :
    ¬ Occurs Place.MarkedPrice (front ++ blank :: ':' :: (body ++ back)) := by
  intro hoccurs
  rcases PriceForm.spans_behind_colon .marked hblank hquiet habsent hoccurs with
    ⟨first, last, hspans, hrest⟩
  cases hspans with
  | marked hmarked =>
      cases hmarked with
      | intro hmark _ _ _ _ _ =>
          rcases hmark with ⟨part, hreads, hletters⟩
          cases hletters with
          | @cons _ c _ part hp _ =>
              have hmem : c ∈ first.rest := by
                rw [hreads.rest]
                exact List.mem_cons_self
              rcases (h.amounts.chars.2 c (hrest.mem hmem)).2 with rfl | hchar
              · exact absurd hp (by decide)
              · exact not_isComparisonChar_p hp hchar

omit h in
theorem not_range_colon (hhyphen : '-' ∉ body) (habsent : ¬ Occurs Place.BareRange front) :
    ¬ Occurs Place.BareRange (front ++ blank :: ':' :: (body ++ back)) := by
  intro hoccurs
  rcases PriceForm.spans_behind_colon .range hblank hquiet habsent hoccurs with
    ⟨first, last, hspans, hrest⟩
  apply hhyphen
  cases hspans with
  | range hlow hb hc _ _ =>
      rcases hb with ⟨gap, hgap, _⟩
      apply hrest.mem
      rw [hlow.reads.rest, hgap.rest, hc.rest]
      simp

/-- Behind a colon that takes the place of a mark and the label the condition counts, or else a
condition of the text in front of it does. -/
theorem condition_colon :
    PriceCondition (front ++ blank :: ':' :: (body ++ back)) condition ∨
      exists other : PricePredicate, PriceCondition front other ∧
        PriceCondition (front ++ blank :: ':' :: (body ++ back)) other := by
  have hends : EndsForms (blank :: ':' :: (body ++ back)) :=
    .intro hblank (Phrase.not_isFormChar_of_opensOutsider (by decide) (by decide))
  have hbare := h.bare (blocksNumeral_colon front blank) hquiet.ends
  rcases exists_condition_or_hasNoForm front with ⟨other, hother⟩ | hnone
  · cases hother with
    | marked hleft =>
        right
        exact ⟨other, .marked hleft, .marked (PriceForm.leftmost_extend .marked hleft hends)⟩
    | range hmarked hleft =>
        right
        exact ⟨other, .range hmarked hleft, .range (h.not_marked_colon hblank hquiet hmarked)
          (PriceForm.leftmost_extend .range hleft hends)⟩
    | comparison hmarked hrange hleft =>
        have hmarked' := h.not_marked_colon hblank hquiet hmarked
        rcases hbare with hstands | ⟨_, hhyphen⟩
        · exact Or.inl (.range hmarked'
            (PriceForm.leftmost_behind_colon .range hblank hrange hstands))
        · exact Or.inr ⟨other, .comparison hmarked hrange hleft, .comparison hmarked'
            (not_range_colon hblank hquiet hhyphen hrange)
            (PriceForm.leftmost_extend .comparison hleft hends)⟩
  · left
    have hmarked' := h.not_marked_colon hblank hquiet (hnone .marked)
    rcases hbare with hstands | ⟨hstands, hhyphen⟩
    · exact .range hmarked'
        (PriceForm.leftmost_behind_colon .range hblank (hnone .range) hstands)
    · exact .comparison hmarked' (not_range_colon hblank hquiet hhyphen (hnone .range))
        (PriceForm.leftmost_behind_colon .comparison hblank (hnone .comparison) hstands)

end Colon

end Writes

/-!
## The canonical text read again
-/

/-- The price behind a residual text is left to count: the residual text has no marked price, and if
it ends in a mark of an id which takes the label of the price for its id, since no names stand
between the two, it has no price at all. -/
structure LeavesPrice (names residual : List Char) : Prop where
  unmarked : ¬ Occurs Place.MarkedPrice (Reading.withoutId residual)
  opened : names = [] -> forall before mark : List Char, residual = before ++ mark ->
    OpensId before mark -> (Reading.ofExpressions residual).criteria.price = none

namespace Reading

theorem leavesPrice_of_price_none
    {residual : List Char} (names : List Char)
    (h : (ofExpressions residual).criteria.price = none) :
    LeavesPrice names residual := by
  refine ⟨fun hoccurs => ?_, fun _ _ _ _ _ => h⟩
  have hsome := (ofExpressions_price_isSome_iff residual).mpr (Or.inl hoccurs)
  rw [h] at hsome
  cases hsome

theorem not_occurs_quiet
    {text front : List Char} (hquiet : Quiet front) (h : ¬ Occurs Place.MarkedPrice text) :
    ¬ Occurs Place.MarkedPrice (text ++ (front ++ [' '])) := by
  intro hoccurs
  rw [← List.append_assoc] at hoccurs
  have hfront := (PriceForm.occurs_append_iff .marked _
    (quiet_cons isBlank_space (List.forall_mem_nil _))).mp hoccurs
  exact h ((PriceForm.occurs_append_iff .marked _ hquiet).mp hfront)

theorem exists_condition_marked
    {text tail : List Char} (h : Occurs Place.MarkedPrice text) (htail : EndsForms tail) :
    exists other : PricePredicate,
      PriceCondition text other ∧ PriceCondition (text ++ tail) other := by
  rcases exists_leftmost_marked h with ⟨other, place, hleft⟩
  exact ⟨other, .marked hleft, .marked (PriceForm.leftmost_extend .marked hleft htail)⟩

theorem condition_of_opensId
    {before mark : List Char} {other : PricePredicate} (hopens : OpensId before mark)
    (hother : PriceCondition before other) :
    PriceCondition (before ++ mark) other := by
  rcases hopens.outside with rfl | houtside
  · exact absurd (hasNoForm_of_digits (List.forall_mem_nil _)) hother.not_hasNoForm
  · exact hother.extend houtside

section Behind

variable {front back body : List Char} {condition : PricePredicate} (hback : SilentParts back)
  (hhyphen : '-' ∉ back) (hbody : Writes body condition)

include hback hhyphen hbody

/-- Behind a text a marked price of the text is read, or else that in writing behind its label. -/
theorem condition_label (hquiet : Quiet front) (text : List Char) :
    PriceCondition (text ++ (front ++ ((' ' :: ("price:".toList ++ body)) ++ back))) condition ∨
      Occurs Place.MarkedPrice text := by
  by_cases hmarked : Occurs Place.MarkedPrice text
  · exact Or.inr hmarked
  · left
    have hcondition := hbody.condition_marked (not_occurs_quiet hquiet hmarked) hback.quiet hhyphen
    simpa using hcondition

/-- If a mark of an id takes the label of a name for its id, the price behind its own label is read
all the same, or else a marked one of the text in front of the mark. -/
theorem condition_behind_name
    {before label rest : List Char} (hfront : SilentParts front)
    (hcons : front = ' ' :: (label ++ ':' :: rest)) :
    PriceCondition
        (before ++ ' ' :: ':' :: (rest ++ ((' ' :: ("price:".toList ++ body)) ++ back))) condition ∨
      Occurs Place.MarkedPrice before := by
  have hquiet : Quiet (' ' :: ':' :: rest) := by
    apply quiet_cons isBlank_space
    intro c hc
    apply hfront.digits c
    rw [hcons]
    exact List.mem_cons_of_mem ' ' (List.mem_append_right label hc)
  exact condition_label hback hhyphen hbody hquiet before

/-- Behind a text the price is read that stands in writing behind its label, or else a price of the
text that leaves no other to count. -/
theorem condition_append
    {base : List Char} (hfront : SilentParts front) (hbase : SolidEnds base) :
    PriceCondition
        (withoutId (base ++ (front ++ ((' ' :: ("price:".toList ++ body)) ++ back)))) condition ∨
      ¬ LeavesPrice front base ∧ exists other : PricePredicate,
        PriceCondition (withoutId base) other ∧
        PriceCondition
          (withoutId (base ++ (front ++ ((' ' :: ("price:".toList ++ body)) ++ back)))) other := by
  have htail : Labelled (front ++ ((' ' :: ("price:".toList ++ body)) ++ back)) :=
    hfront.labelled.append (hbody.amounts.labelled.append hback.labelled)
  by_cases hne : base = []
  · left
    have hsplit : front ++ ((' ' :: ("price:".toList ++ body)) ++ back) =
        (front ++ [' ']) ++ ("price:".toList ++ (body ++ back)) := by
      simp
    rw [hne, List.nil_append, withoutId_labelled htail, hsplit,
      List.drop_append_of_le_length (by simp)]
    have hdigits : forall c : Char, c ∈ (front ++ [' ']).drop 1 -> isDigit c = false := by
      intro c hc
      rcases List.mem_append.mp (List.mem_of_mem_drop hc) with hc | hc
      · exact hfront.digits c hc
      · rw [List.mem_singleton.mp hc]
        rfl
    exact hbody.condition_marked (hasNoForm_of_digits hdigits .marked) hback.quiet hhyphen
  · rcases withoutId_append hbase hne htail with
      happend | ⟨before, mark, label, rest, rfl, hopens, hwithout, hlabel, htail', happend⟩
    · rw [happend]
      rcases condition_label hback hhyphen hbody hfront.quiet (withoutId base) with
        hcondition | hmarked
      · exact Or.inl hcondition
      · exact Or.inr ⟨fun hleaves => hleaves.unmarked hmarked,
          exists_condition_marked hmarked (htail.endsForms (by simp))⟩
    · -- the mark at the end of the text has the first label for its id
      rw [happend, hwithout]
      rcases hfront.labelled.cases_head with hnil | ⟨label', rest', hlabel', hcons⟩
      · have hprice : "price".toList ∈ labels := by decide
        have hrest : body ++ back = rest := by
          rw [hnil] at htail'
          exact label_unique hprice hlabel (List.cons.inj htail').2
        rw [← hrest]
        rcases hbody.condition_colon isBlank_space hback.quiet with
          hcondition | ⟨other, hother, hwhole⟩
        · exact Or.inl hcondition
        · have hother' := condition_of_opensId hopens hother
          refine Or.inr ⟨fun hleaves => ?_, other, hother', hwhole⟩
          have hnone := hleaves.opened hnil before mark rfl hopens
          rw [← hwithout] at hother'
          rw [(ofExpressions_price_eq_some_iff _ other).mpr hother'] at hnone
          cases hnone
      · have hrest : rest' ++ ((' ' :: ("price:".toList ++ body)) ++ back) = rest := by
          rw [hcons, List.cons_append, List.append_assoc, List.cons_append] at htail'
          exact label_unique hlabel' hlabel (List.cons.inj htail').2
        rw [← hrest]
        rcases condition_behind_name hback hhyphen hbody hfront hcons with hcondition | hmarked
        · exact Or.inl hcondition
        · right
          rcases exists_leftmost_marked hmarked with ⟨other, place, hleft⟩
          refine ⟨fun hleaves => hleaves.unmarked ?_, other,
            condition_of_opensId hopens (.marked hleft),
            .marked (PriceForm.leftmost_extend .marked hleft (.intro isBlank_space
              (Phrase.not_isFormChar_of_opensOutsider (by decide) (by decide))))⟩
          rw [hwithout]
          rcases hopens.outside with rfl | houtside
          · exact absurd hmarked (hasNoForm_of_digits (List.forall_mem_nil _) .marked)
          · exact (PriceForm.occurs_append_iff .marked before houtside.quiet).mpr hmarked

end Behind

theorem solidEnds_residual (query : List Char) :
    SolidEnds (ofQuery query).residual := by
  unfold ofQuery
  dsimp only
  rw [ofPhrases_residual]
  exact solidEnds_collapse _

theorem canonical_price_none
    {query : List Char} (hnone : (ofQuery query).criteria.price = none) :
    (ofQuery (ofQuery query).canonical).criteria.price =
      (ofQuery (ofQuery query).residual).criteria.price := by
  rcases exists_silentParts query with ⟨back, hback, _, htail⟩
  rw [hnone] at htail
  rw [ofQuery_canonical, htail]
  exact ofQuery_price_append (solidEnds_residual query)
    ((silentParts_shownNames query).append hback)

theorem canonical_price_some
    {query : List Char} {condition : PricePredicate}
    (hprice : (ofQuery query).criteria.price = some condition)
    (hfinite : forall bound : Binary64, bound ∈ condition.bounds -> bound.isFinite = true) :
    (ofQuery (ofQuery query).canonical).criteria.price = some condition.shown ∨
      ¬ LeavesPrice (ofQuery query).shownNames (ofQuery query).residual ∧
        (ofQuery (ofQuery query).canonical).criteria.price =
          (ofExpressions (ofQuery query).residual).criteria.price := by
  rcases exists_silentParts query with ⟨back, hback, hhyphen, htail⟩
  rcases written_of_ofQuery hprice with ⟨_, hwritten⟩
  rcases hwritten.canonical hfinite with ⟨body, hcanonical, hbody⟩
  have hpart :
      behindSpaces [((ofQuery query).criteria.price.map PricePredicate.canonical).getD []] =
        ' ' :: ("price:".toList ++ body) := by
    rw [hprice, Option.map_some, Option.getD_some, hcanonical]
    exact List.append_nil _
  rw [ofQuery_canonical, htail, hpart, ofQuery_price]
  rcases condition_append hback hhyphen hbody (silentParts_shownNames query)
    (solidEnds_residual query) with
    hcondition | ⟨hleaves, other, hother, hwhole⟩
  · exact Or.inl (textPrice_of_condition hcondition)
  · right
    rw [textPrice_of_condition hwhole, (ofExpressions_price_eq_some_iff _ other).mpr hother]
    exact ⟨hleaves, rfl⟩

/-- The canonical text of a query, read again, puts the price of the query with its inclusive
comparison as a strict one: the same bounds, so that it selects the same prices except the bound
of that comparison.  A text takes one price only, so that a residual text which leaves no price to
count may put its own instead; and the canonical text of a query without a price puts what the
residual text puts by itself.  Bounds that are not finite have no numeral to be shown as. -/
theorem canonical_price (query : List Char) :
    ((ofQuery query).criteria.price = none ->
        (ofQuery (ofQuery query).canonical).criteria.price =
          (ofQuery (ofQuery query).residual).criteria.price) ∧
      forall condition : PricePredicate, (ofQuery query).criteria.price = some condition ->
        (forall bound : Binary64, bound ∈ condition.bounds -> bound.isFinite = true) ->
          ((ofQuery (ofQuery query).canonical).criteria.price = some condition.shown ∨
            ¬ LeavesPrice (ofQuery query).shownNames (ofQuery query).residual ∧
              (ofQuery (ofQuery query).canonical).criteria.price =
                (ofExpressions (ofQuery query).residual).criteria.price) ∧
          forall price : Binary64, condition.shown.holds (some price) = true <->
            condition.holds (some price) = true ∧ ¬ condition.EndsAt price :=
  ⟨canonical_price_none, fun condition hprice hfinite =>
    ⟨canonical_price_some hprice hfinite, condition.holds_shown_iff⟩⟩

theorem canonical_price_lampUnder :
    (ofQuery (ofQuery "sony lamp".toList).canonical).criteria.price = none ∧
      (ofQuery "lamp under 300".toList).criteria.price = some (.compare .atMost (.ofNat 300)) ∧
        (ofQuery (ofQuery "lamp under 300".toList).canonical).criteria.price =
          some (.compare .less (.ofNat 300)) := by
  have hlamp := (canonical_price "sony lamp".toList).1 (by decide +kernel)
  have hnone : (ofQuery (ofQuery "sony lamp".toList).residual).criteria.price = none := by
    decide +kernel
  have hprice : (ofQuery "lamp under 300".toList).criteria.price =
      some (.compare .atMost (.ofNat 300)) := by decide +kernel
  have hfinite : forall bound : Binary64,
      bound ∈ (PricePredicate.compare .atMost (.ofNat 300)).bounds -> bound.isFinite = true :=
    List.forall_mem_singleton.mpr (by decide +kernel)
  have hleaves : LeavesPrice (ofQuery "lamp under 300".toList).shownNames
      (ofQuery "lamp under 300".toList).residual :=
    leavesPrice_of_price_none _ (by decide +kernel)
  refine ⟨hlamp.trans hnone, hprice, ?_⟩
  rcases ((canonical_price "lamp under 300".toList).2 _ hprice hfinite).1 with
    hshown | ⟨hother, _⟩
  · exact hshown
  · exact absurd hleaves hother

/-- The bound 300 itself is selected by the query and not by its canonical text.  A second marked
price of the query is left in the residual text and is read first, the words of a residual text may
come together to a price, and an infinite bound is shown as no numeral. -/
theorem canonical_price_changed :
    (ofQuery (ofQuery "under 300".toList).canonical).criteria.price ≠
        (ofQuery "under 300".toList).criteria.price ∧
      ((ofQuery "price:<5 price:>9".toList).criteria.price = some (.compare .less (.ofNat 5)) ∧
        (ofQuery (ofQuery "price:<5 price:>9".toList).canonical).criteria.price =
          some (.compare .greater (.ofNat 9))) ∧
      ((ofQuery "5 for -7".toList).criteria.price = none ∧
        (ofQuery (ofQuery "5 for -7".toList).canonical).criteria.price =
          some (.range (.ofNat 5) (.ofNat 7))) ∧
      ((ofQuery ("price:<1".toList ++ List.replicate 310 '0')).criteria.price ≠ none ∧
        (ofQuery (ofQuery ("price:<1".toList ++ List.replicate 310 '0')).canonical).criteria.price =
          none) := by
  decide +kernel

end Reading

end CatalogSearch
