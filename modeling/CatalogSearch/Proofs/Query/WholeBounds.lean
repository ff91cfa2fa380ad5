import CatalogSearch.Proofs.Query.ExpressionCuts
import CatalogSearch.Proofs.Query.PhraseCuts
import CatalogSearch.Proofs.Query.WholeAmounts

/-!
# Bounds are whole numbers of the query

Every bound of a price is the value of a numeral that stands free in the query, unless the id
was cut out of the middle of a number or the price phrase was found in the middle of one.  The
words that are left show no other numerals than the query, unless a cut tears a number apart.
-/

namespace CatalogSearch

open Text Pattern

/-!
## Cuts that tear no number
-/

/-- A part is cut out of a text, if it occurs at all, where no number reaches over its ends. -/
inductive TearsNoNumber (part text : List Char) : Prop where
  | absent : blankFirst part text = text -> TearsNoNumber part text
  | cut {before after : List Char} :
      text = before ++ (part ++ after) -> blankFirst part text = before ++ ' ' :: after ->
      numberReaches before (part ++ after) = false ->
      numberReaches (before ++ part) after = false -> TearsNoNumber part text

def CutsTearNoNumber : List Span -> List Char -> Prop
  | [], _ => True
  | span :: rest, text =>
      TearsNoNumber span.text text ∧ CutsTearNoNumber rest (blankFirst span.text text)

theorem HasNumeral.of_blankFirst
    {part text : List Char} {digits : Digits} (h : HasNumeral (blankFirst part text) digits)
    (hcut : TearsNoNumber part text) :
    HasNumeral text digits := by
  cases hcut with
  | absent hsame =>
      rw [hsame] at h
      exact h
  | @cut before after htext hcut hbefore hafter =>
      rw [hcut, (wordByWord_hasNumeral digits).blank before after isBlank_space] at h
      rw [htext]
      rcases h with hfront | hback
      · exact hfront.append_right hbefore
      · rw [← List.append_assoc]
        exact HasNumeral.append_left hafter hback

theorem HasNumeral.of_cutAll
    {pieces : List Piece} {spans : List Span} {digits : Digits}
    (h : HasNumeral (Pieces.chars (Pieces.cutAll pieces spans)) digits)
    (hcuts : CutsTearNoNumber spans (Pieces.chars pieces)) :
    HasNumeral (Pieces.chars pieces) digits := by
  induction spans generalizing pieces with
  | nil => exact h
  | cons span spans ih =>
      have hrest := hcuts.2
      rw [← Pieces.chars_cutFirst] at hrest
      have hfirst := ih h hrest
      rw [Pieces.chars_cutFirst] at hfirst
      exact hfirst.of_blankFirst hcuts.1

theorem DottedBeforeDigit.of_cutAll
    {pieces : List Piece} {spans : List Span}
    (h : DottedBeforeDigit (Pieces.chars (Pieces.cutAll pieces spans))) :
    DottedBeforeDigit (Pieces.chars pieces) := by
  induction spans generalizing pieces with
  | nil => exact h
  | cons span spans ih =>
      have hfirst := ih h
      rw [Pieces.chars_cutFirst] at hfirst
      rcases blankFirst_cases span.text (Pieces.chars pieces) with
        hsame | ⟨before, after, htext, hcut⟩
      · rw [hsame] at hfirst
        exact hfirst
      · rw [hcut, wordByWord_dottedBeforeDigit.blank before after isBlank_space] at hfirst
        rw [htext]
        rcases hfirst with ⟨c, hc, hwithin⟩ | ⟨c, hc, hwithin⟩
        · exact ⟨c, hc, hwithin.trans (List.prefix_append _ _).isInfix⟩
        · refine ⟨c, hc, hwithin.trans ?_⟩
          rw [← List.append_assoc]
          exact (List.suffix_append _ _).isInfix

/-!
## The price phrase
-/

namespace Phrase

def PriceBound.amounts : PriceBound -> List Digits
  | .atMost value => [value]
  | .atLeast value => [value]
  | .range low high => [low, high]

theorem boundsStandFree_condition
    {bound : PriceBound} {condition : PricePredicate} {text : List Char}
    (h : bound.condition = some condition)
    (hamounts : forall digits : Digits, digits ∈ bound.amounts -> HasNumeral text digits) :
    BoundsStandFree condition text := by
  cases bound with
  | atMost value =>
      rw [← Option.some.inj (Option.ite_none_left_eq_some.mp h).2]
      exact boundsStandFree_compare .atMost (hamounts value List.mem_cons_self)
  | atLeast value =>
      rw [← Option.some.inj (Option.ite_none_left_eq_some.mp h).2]
      exact boundsStandFree_compare .atLeast (hamounts value List.mem_cons_self)
  | range low high =>
      rw [← Option.some.inj (Option.ite_none_left_eq_some.mp h).2]
      exact boundsStandFree_between (hamounts low List.mem_cons_self)
        (hamounts high (List.mem_cons_of_mem low List.mem_cons_self))

theorem amounts_ne_nil
    {parts : List Part} (h : Part.amount ∈ parts) {first last : Place} {amounts : List Digits}
    (hfinds : Finds (readParts parts) first amounts last) :
    amounts ≠ [] := by
  induction parts generalizing first amounts with
  | nil => cases h
  | cons part rest ih =>
      rw [readParts_cons, finds_bind] at hfinds
      rcases hfinds with ⟨lead, middle, hlead, hrest⟩
      rcases finds_map.mp hrest with ⟨others, hothers, rfl⟩
      rcases List.mem_cons.mp h with rfl | hmem
      · rcases finds_map.mp hlead with ⟨digits, _, rfl⟩
        exact List.cons_ne_nil _ _
      · intro hnil
        exact ih hmem hothers (List.append_eq_nil_iff.mp hnil).2

theorem amounts_of_shape
    {shape : List Part × (List Digits -> PriceBound)} (h : shape ∈ priceShapes)
    {amounts : List Digits} (hne : amounts ≠ []) {digits : Digits}
    (hdigits : digits ∈ (shape.2 amounts).amounts) :
    digits ∈ amounts := by
  have hkinds : forall shape : List Part × (List Digits -> PriceBound), shape ∈ priceShapes ->
      shape.2 = atMostOf ∨ shape.2 = atLeastOf ∨ shape.2 = rangeOf := by
    simp [priceShapes]
  have hlow : lowAmount amounts ∈ amounts := by
    cases amounts with
    | nil => exact absurd rfl hne
    | cons digits rest => exact List.mem_cons_self
  have hhigh : highAmount amounts ∈ amounts := by
    rw [highAmount, List.getLastD_eq_getLast?, List.getLast?_eq_some_getLast hne]
    exact List.getLast_mem hne
  rcases hkinds shape h with hkind | hkind | hkind <;> rw [hkind] at hdigits
  · exact List.mem_singleton.mp hdigits ▸ hlow
  · exact List.mem_singleton.mp hdigits ▸ hlow
  · rcases List.mem_cons.mp hdigits with heq | hrest
    · exact heq ▸ hlow
    · exact List.mem_singleton.mp hrest ▸ hhigh

def StandsApart {α : Type} (found : Match α) : Prop :=
  numberReaches found.before (found.text ++ found.after) = false ∧
    numberReaches (found.before ++ found.text) found.after = false

instance {α : Type} (found : Match α) : Decidable (StandsApart found) :=
  inferInstanceAs (Decidable (_ ∧ _))

theorem exists_amounts_of_price?
    {text : List Char} {condition : PricePredicate} {found : Match PriceBound}
    (hprice : (price? text).map Prod.fst = some condition)
    (hfound : foundPrice? text = some found) :
    exists (shape : List Part × (List Digits -> PriceBound)) (amounts : List Digits),
      shape ∈ priceShapes ∧ (shape.2 amounts).condition = some condition ∧ amounts ≠ [] ∧
        text = found.before ++ (found.text ++ found.after) ∧
        Finds (readParts shape.1) ⟨found.before, found.text ++ found.after⟩ amounts
          ⟨found.before ++ found.text, found.after⟩ := by
  have hamount : forall shape : List Part × (List Digits -> PriceBound), shape ∈ priceShapes ->
      Part.amount ∈ shape.1 := by
    have hall : (priceShapes.map Prod.fst).all (fun parts => decide (Part.amount ∈ parts)) =
        true := by decide
    intro shape hmem
    exact of_decide_eq_true (List.all_eq_true.mp hall shape.1 (List.mem_map_of_mem hmem))
  unfold foundPrice? at hfound
  rcases Option.bind_eq_some_iff.mp hfound with ⟨⟨pattern, other⟩, hfirst, hother⟩
  rcases Option.map_eq_some_iff.mp hother with ⟨condition', hcondition, heq⟩
  have hother : other = found := heq
  rw [hother] at hfirst hcondition
  have hvalue : found.value.condition = some condition := by
    unfold price? at hprice
    rw [hfirst] at hprice
    simp only [Option.bind_some, hcondition, Option.map_some] at hprice ⊢
    exact hprice
  rcases firstFound_eq_some hfirst with ⟨hmem, hsearch⟩
  have hplace := foundAt_of_search (isPricePhrase_of_mem_prices hmem).covers hsearch
  rw [prices_eq] at hmem
  rcases List.mem_map.mp hmem with ⟨shape, hshape, hpattern⟩
  have hfinds : Finds pattern ⟨found.before, found.text ++ found.after⟩ found.value
      ⟨found.before ++ found.text, found.after⟩ := ⟨found.text, rfl, hplace.fits⟩
  rw [← hpattern] at hfinds
  rcases finds_map.mp hfinds with ⟨amounts, hamounts, hbound⟩
  rw [hbound] at hvalue
  refine ⟨shape, amounts, hshape, hvalue, amounts_ne_nil (hamount shape hshape) hamounts, ?_,
    hamounts⟩
  rw [hplace.split, List.append_assoc]

/-- The amounts of a price phrase that stands apart are numerals that stand free. -/
theorem price?_boundsStandFree
    {text : List Char} {condition : PricePredicate} {found : Match PriceBound}
    (hprice : (price? text).map Prod.fst = some condition) (hfound : foundPrice? text = some found)
    (hapart : StandsApart found) :
    BoundsStandFree condition text := by
  have hshapes : (priceShapes.map Prod.fst).all (amountsApart true) = true := by decide
  rcases exists_amounts_of_price? hprice hfound with
    ⟨shape, amounts, hshape, hcondition, hne, hsplit, hamounts⟩
  have hfree : amountsApart true shape.1 = true :=
    List.all_eq_true.mp hshapes shape.1 (List.mem_map_of_mem hshape)
  apply boundsStandFree_condition hcondition
  intro digits hdigits
  rw [hsplit]
  exact amounts_standFree hfree hamounts (fun _ => (numberReaches_eq_false.mp hapart.1).2)
    (numberReaches_eq_false.mp hapart.2).1 (amounts_of_shape hshape hne hdigits)

end Phrase

namespace Reading

/-!
## Numbers of a query
-/

/-- A price is read of a query without tearing a number: the id is cut out apart from numbers, and
the price phrase, if it counts, is found apart from them. -/
structure ReadsWholeNumbers (query : List Char) : Prop where
  id : CutsTearNoNumber (idSpan? query).toList (strip query)
  phrase : (ofExpressions query).criteria.price = none -> forall found : Match Phrase.PriceBound,
    Phrase.foundPrice? (leftover query) = some found ->
      Phrase.StandsApart found ∧ ¬ DottedBeforeDigit query

/-- The expressions and phrases of a query are cut out without tearing a number. -/
structure LeavesWholeNumbers (query : List Char) : Prop where
  dotted : ¬ DottedBeforeDigit query
  expressions : CutsTearNoNumber ((idSpan? query).toList ++ formSpans query) (strip query)
  phrases : CutsTearNoNumber (liftedSpans query) (leftover query)

theorem hasNumeral_of_strip
    {query : List Char} {digits : Digits} {spans : List Span}
    (h : HasNumeral (Pieces.chars (Pieces.cutAll (Piece.ofText (strip query)) spans)) digits)
    (hcuts : CutsTearNoNumber spans (strip query)) :
    HasNumeral query digits := by
  rw [← Pieces.chars_ofText (strip query)] at hcuts
  have hstrip := h.of_cutAll hcuts
  rw [Pieces.chars_ofText] at hstrip
  exact ((wordByWord_hasNumeral digits).strip_iff query).mp hstrip

theorem uncutPieces_eq (query : List Char) :
    uncutPieces query =
      Pieces.cutAll (Piece.ofText (strip query)) ((idSpan? query).toList ++ formSpans query) :=
  List.foldl_append.symm

theorem hasNumeral_of_leftover
    {query : List Char} {digits : Digits} (h : HasNumeral (leftover query) digits)
    (hdotted : ¬ DottedBeforeDigit query)
    (hcuts : CutsTearNoNumber ((idSpan? query).toList ++ formSpans query) (strip query)) :
    HasNumeral query digits := by
  unfold leftover at h
  rw [ofExpressions_residual, uncutPieces_eq] at h
  have huncut : ¬ DottedBeforeDigit (collapse (Pieces.chars
      (Pieces.cutAll (Piece.ofText (strip query))
        ((idSpan? query).toList ++ formSpans query)))) := by
    rw [wordByWord_dottedBeforeDigit.collapse_iff]
    intro hdotted'
    have hstrip := hdotted'.of_cutAll
    rw [Pieces.chars_ofText, wordByWord_dottedBeforeDigit.strip_iff] at hstrip
    exact hdotted hstrip
  have hcollapse := h.of_lower huncut
  rw [(wordByWord_hasNumeral digits).collapse_iff] at hcollapse
  exact hasNumeral_of_strip hcollapse hcuts

theorem formSpans_of_no_price
    {query : List Char} (h : (ofExpressions query).criteria.price = none) :
    formSpans query = [] := by
  have hforms : (priceForms (splitId (strip query)).2).findSome? (fun form => form) = none :=
    Option.map_eq_none_iff.mp h
  rw [List.findSome?_eq_none_iff, ← chars_unmarked] at hforms
  simp only [priceForms, List.forall_mem_cons] at hforms
  unfold formSpans formSpan?
  rw [hforms.1, hforms.2.1, hforms.2.2.1]
  rfl

theorem price_boundsStandFree
    {query : List Char} {condition : PricePredicate}
    (hprice : (ofQuery query).criteria.price = some condition) (h : ReadsWholeNumbers query) :
    BoundsStandFree condition query := by
  intro bound hbound
  have hor : (ofExpressions query).criteria.price.or (ofPhrases (leftover query)).criteria.price =
      some condition := hprice
  cases hgrammar : (ofExpressions query).criteria.price with
  | some condition' =>
      rw [hgrammar, Option.some_or] at hor
      rw [Option.some.inj hor] at hgrammar
      rcases priceForms_spec (splitId (strip query)).2 with ⟨other, hcondition, hforms⟩ |
        ⟨_, _, _, hforms⟩
      · have heq : other = condition := Option.some.inj (hforms.symm.trans hgrammar)
        rw [heq, ← chars_unmarked] at hcondition
        rcases hcondition.boundsStandFree bound hbound with ⟨digits, hnumeral, hvalue⟩
        exact ⟨digits, hasNumeral_of_strip hnumeral h.id, hvalue⟩
      · cases hforms.symm.trans hgrammar
  | none =>
      rw [hgrammar, Option.none_or, (ofPhrases_leftover query).1] at hor
      have hphrase := congrArg Option.isSome (Phrase.price?_phrase (leftover query))
      rw [Option.isSome_map, Option.isSome_map, ← Option.isSome_map (f := Prod.fst), hor] at hphrase
      rcases Option.isSome_iff_exists.mp hphrase.symm with ⟨found, hfound⟩
      rcases h.phrase hgrammar found hfound with ⟨hapart, hdotted⟩
      rcases Phrase.price?_boundsStandFree hor hfound hapart bound hbound with
        ⟨digits, hnumeral, hvalue⟩
      refine ⟨digits, hasNumeral_of_leftover hnumeral hdotted ?_, hvalue⟩
      rw [formSpans_of_no_price hgrammar, List.append_nil]
      exact h.id

theorem hasNumeral_of_term
    {query : List Char} {term : String} (hterm : term ∈ (ofQuery query).criteria.terms)
    {digits : Digits} (hnumeral : HasNumeral term.toList digits) (h : LeavesWholeNumbers query) :
    HasNumeral query digits := by
  rw [terms_eq_words_liftedPieces, List.mem_filter, List.mem_map] at hterm
  rcases hterm.1 with ⟨word, hword, rfl⟩
  rw [String.toList_ofList] at hnumeral
  have hlifted := ((wordByWord_hasNumeral digits).iff_words _).mpr ⟨word, hword, hnumeral⟩
  have hphrases := h.phrases
  rw [← Pieces.chars_ofText (leftover query)] at hphrases
  have hleft := hlifted.of_cutAll hphrases
  rw [Pieces.chars_ofText] at hleft
  exact hasNumeral_of_leftover hleft h.dotted h.expressions

/-- The bounds of a price are values of numerals that stand free in the query, if reading it tears
no number; and the words to be found show no numerals but those of the query, if no cut does. -/
theorem bounds_and_terms_whole (query : List Char) :
    (ReadsWholeNumbers query -> forall condition : PricePredicate,
        (ofQuery query).criteria.price = some condition -> BoundsStandFree condition query) ∧
      (LeavesWholeNumbers query -> forall (term : String) (digits : Digits),
        term ∈ (ofQuery query).criteria.terms -> HasNumeral term.toList digits ->
          HasNumeral query digits) :=
  ⟨fun h _ hprice => price_boundsStandFree hprice h,
    fun h _ _ hterm hnumeral => hasNumeral_of_term hterm hnumeral h⟩

theorem bounds_and_terms_whole_shelf :
    (ReadsWholeNumbers "id:ab-1 shelf 3 under 50".toList ∧
        exists condition : PricePredicate,
          (ofQuery "id:ab-1 shelf 3 under 50".toList).criteria.price = some condition ∧
            BoundsStandFree condition "id:ab-1 shelf 3 under 50".toList) ∧
      LeavesWholeNumbers "id:ab-1 shelf 3 under 50".toList ∧
        HasNumeral "3".toList ⟨['3'], []⟩ ∧
          HasNumeral "id:ab-1 shelf 3 under 50".toList ⟨['3'], []⟩ := by
  have hid : idSpan? "id:ab-1 shelf 3 under 50".toList = some ⟨0, "id:ab-1".toList⟩ := by
    decide +kernel
  have hforms : formSpans "id:ab-1 shelf 3 under 50".toList = [] := by decide +kernel
  have hleft : leftover "id:ab-1 shelf 3 under 50".toList = "shelf 3 under 50".toList := by
    decide +kernel
  have hlifted : liftedSpans "id:ab-1 shelf 3 under 50".toList = [⟨8, "under 50".toList⟩] := by
    decide +kernel
  have hfound : (Phrase.foundPrice? "shelf 3 under 50".toList).all (fun found =>
      decide (Phrase.StandsApart found)) = true := by
    decide +kernel
  have hprice : (ofQuery "id:ab-1 shelf 3 under 50".toList).criteria.price =
      some (.compare .atMost (Digits.value ⟨['5', '0'], []⟩)) := by decide +kernel
  have hterm : "3" ∈ (ofQuery "id:ab-1 shelf 3 under 50".toList).criteria.terms := by
    decide +kernel
  have hdotted : ¬ DottedBeforeDigit "id:ab-1 shelf 3 under 50".toList := by
    rintro ⟨c, _, hwithin⟩
    exact absurd (hwithin.subset List.mem_cons_self) (by decide)
  have hcutId : CutsTearNoNumber [⟨0, "id:ab-1".toList⟩]
      (strip "id:ab-1 shelf 3 under 50".toList) :=
    ⟨@TearsNoNumber.cut _ _ [] " shelf 3 under 50".toList (by decide)
      (by decide) (by decide) (by decide), trivial⟩
  have hcutPhrase : CutsTearNoNumber [⟨8, "under 50".toList⟩] "shelf 3 under 50".toList :=
    ⟨@TearsNoNumber.cut _ _ "shelf 3 ".toList [] (by decide) (by decide)
      (by decide) (by decide), trivial⟩
  have hreads : ReadsWholeNumbers "id:ab-1 shelf 3 under 50".toList := by
    constructor
    · rw [hid]
      exact hcutId
    · intro _ found hsome
      rw [hleft] at hsome
      rw [hsome, Option.all_some, decide_eq_true_iff] at hfound
      exact ⟨hfound, hdotted⟩
  have hleaves : LeavesWholeNumbers "id:ab-1 shelf 3 under 50".toList := by
    constructor
    · exact hdotted
    · rw [hid, hforms]
      exact hcutId
    · rw [hleft, hlifted]
      exact hcutPhrase
  have hnumeral : HasNumeral "3".toList ⟨['3'], []⟩ := hasNumeral_digit (by decide)
  rcases bounds_and_terms_whole "id:ab-1 shelf 3 under 50".toList with ⟨hbounds, hterms⟩
  exact ⟨⟨hreads, _, hprice, hbounds hreads _ hprice⟩, hleaves, hnumeral,
    hterms hleaves "3" _ hterm hnumeral⟩

/-- The amount of a phrase ends in the middle of a number, and the rest of it is left behind. -/
theorem not_bounds_and_terms_whole_longDecimals :
    exists condition : PricePredicate,
      (ofQuery "under 12.345".toList).criteria.price = some condition ∧
        ¬ BoundsStandFree condition "under 12.345".toList ∧
        "5" ∈ (ofQuery "under 12.345".toList).criteria.terms ∧
        HasNumeral "5".toList ⟨['5'], []⟩ ∧
        ¬ HasNumeral "under 12.345".toList ⟨['5'], []⟩ := by
  have hnone : forall digits : Digits, ¬ HasNumeral "under 12.345".toList digits := by
    rintro digits ⟨first, last, htext, hnumeral⟩
    have hsearch : (freeNumeral.search "under 12.345".toList).isNone = true := by decide
    exact not_finds_of_search (Option.isNone_iff_eq_none.mp hsearch) htext digits last
      (finds_freeNumeral.mpr hnumeral)
  refine ⟨.compare .atMost (Digits.value ⟨['1', '2'], ['3', '4']⟩), by decide +kernel, ?_,
    by decide +kernel, hasNumeral_digit (by decide), hnone _⟩
  intro h
  rcases h _ List.mem_cons_self with ⟨digits, hnumeral, _⟩
  exact hnone digits hnumeral

end Reading

end CatalogSearch
