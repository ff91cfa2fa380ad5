import CatalogSearch.Proofs.Query.Expressions
import CatalogSearch.Proofs.Query.Spans
import CatalogSearch.Proofs.Text.CutAfterCut

/-!
# Expressions cut out of a query

The id, the price, the bare range and the bare comparison of a query are found by their
patterns but cut out by their text.  The id is always cut where it was found; the keywords are
right exactly if the price forms are too.
-/

namespace CatalogSearch

open Text

namespace Reading

/-!
## What is cut
-/

def idSpan? (query : List Char) : Option Span :=
  (Pattern.idExpression.search (strip query)).map Pattern.Match.span

def unmarked (query : List Char) : List Piece :=
  Pieces.cutAll (Piece.ofText (strip query)) (idSpan? query).toList

def formSpan? (query : List Char) (pattern : Pattern PricePredicate) : Option Span :=
  (pattern.search (Pieces.chars (unmarked query))).map Pattern.Match.span

def formSpans (query : List Char) : List Span :=
  (formSpan? query Pattern.priceExpression).toList ++
    ((formSpan? query Pattern.bareRange).toList ++
      (formSpan? query Pattern.bareComparison).toList)

def expressionPlaces (query : List Char) : List Nat :=
  (idSpan? query).toList.flatMap
      (fun span => Pieces.places (Pieces.segment span (Piece.ofText (strip query)))) ++
    (formSpans query).flatMap fun span => Pieces.places (Pieces.segment span (unmarked query))

/-- The pieces of a query after each expression was cut out at its first occurrence. -/
def uncutPieces (query : List Char) : List Piece :=
  Pieces.cutAll (unmarked query) (formSpans query)

def wordsOutsideExpressions (query : List Char) : List String :=
  ((words (blankPlaces (expressionPlaces query) (strip query))).map lower).map String.ofList

/-- The expressions are cut out at their own places and nowhere else. -/
def CutsExactly (query : List Char) : Prop :=
  forall place : Nat,
    place ∈ Pieces.cutPlaces (uncutPieces query) <-> place ∈ expressionPlaces query

/-- The first occurrence of every price form is what is left of it where it was found. -/
structure CutsInPlace (query : List Char) : Prop where
  each : Pieces.EachInPlace (unmarked query) (unmarked query) (formSpans query)

/-!
## The id is cut in place
-/

theorem id_firstAt
    {query : List Char} {found : Pattern.Match (List Char)}
    (h : Pattern.idExpression.search (strip query) = some found) :
    exists front back : List Piece,
      Pieces.FirstAt found.span.text (Piece.ofText (strip query)) front
        (Pieces.segment found.span (Piece.ofText (strip query))) back ∧
        Pieces.chars back = found.after := by
  have hplace := Pattern.foundAt_of_search Pattern.covers_idExpression h
  have hne : found.span.text ≠ [] := (Pattern.idExpression_hit hplace.fits).1
  rw [← Pieces.chars_ofText (strip query)] at hplace
  rcases hplace.segment with ⟨hbefore, hsegment, hafter⟩
  rcases Pieces.firstAt_of_segment hne hsegment with ⟨front, part, back, hfirst⟩
  have hsplit := Pieces.segment_split found.span (Piece.ofText (strip query))
  have hle := hfirst.first _ _ _ hsplit hsegment
  have hstart : front.length = ((Piece.ofText (strip query)).take found.span.start).length := by
    apply Nat.le_antisymm hle
    apply Nat.le_of_not_lt
    intro hlt
    rw [← Pieces.length_chars, ← Pieces.length_chars (List.take _ _), hbefore] at hlt
    have htext : Pieces.chars (Piece.ofText (strip query)) =
        Pieces.chars front ++ (found.text ++ Pieces.chars back) := by
      have hpart : Pieces.chars part = found.text := hfirst.text
      rw [hfirst.split, Pieces.chars_append, Pieces.chars_append, hpart, List.append_assoc]
    have hnone := hplace.leftmost _ _ htext hlt
    cases hlast : found.before.getLast? with
    | none =>
        rw [List.getLast?_eq_none_iff.mp hlast] at hlt
        exact Nat.not_lt_zero _ hlt
    | some c =>
        have hfits := hplace.fits
        rw [hlast] at hfits
        exact Pattern.idExpression_again hfits _ _ hnone
  have hends := hfirst.segment_of_start hsegment hstart
  refine ⟨front, back, ?_, ?_⟩
  · rw [← hends.2.1]
    exact hfirst
  · rw [hends.2.2]
    exact hafter

theorem describes_unmarked (query : List Char) :
    Pieces.Describes 0 (strip query) (unmarked query) := by
  apply (Pieces.describes_ofText (strip query)).cutAll
  intro span hmem
  rcases Option.map_eq_some_iff.mp (Option.mem_toList.mp hmem) with ⟨found, hfound, hspan⟩
  have hplace := Pattern.foundAt_of_search Pattern.covers_idExpression hfound
  rw [← hspan]
  exact (Pattern.idExpression_hit hplace.fits).1

theorem mem_cutPlaces_unmarked (query : List Char) (place : Nat) :
    place ∈ Pieces.cutPlaces (unmarked query) <->
      place ∈ (idSpan? query).toList.flatMap
        fun span => Pieces.places (Pieces.segment span (Piece.ofText (strip query))) := by
  have hnothing := Pieces.cutPlaces_ofText (strip query)
  unfold unmarked idSpan?
  cases hid : Pattern.idExpression.search (strip query) with
  | none =>
      show place ∈ Pieces.cutPlaces (Piece.ofText (strip query)) <-> place ∈ []
      rw [hnothing]
  | some found =>
      rcases id_firstAt hid with ⟨front, back, hfirst, _⟩
      have hbase := Pieces.describes_ofText (strip query)
      have hplace := Pattern.foundAt_of_search Pattern.covers_idExpression hid
      have hne : found.span.text ≠ [] := (Pattern.idExpression_hit hplace.fits).1
      have hcut := (Pieces.inPlace_iff hbase hbase hne).mp
        (Pieces.FirstAt.inPlace hbase hfirst) place
      rw [hnothing] at hcut
      simp only [List.not_mem_nil, false_or] at hcut
      rw [Option.map_some, Option.toList_some, List.flatMap_singleton]
      exact hcut

/-- No character that an id can have stands directly behind the gap of the id. -/
theorem not_isIdChar_after_gap
    {query : List Char} {front back : List Piece} {removed : List Nat} {c : Char} {place : Nat}
    (h : unmarked query = front ++ .gap removed :: .kept c place :: back) :
    Pattern.isIdChar c = false := by
  unfold unmarked idSpan? at h
  cases hid : Pattern.idExpression.search (strip query) with
  | none =>
      rw [hid] at h
      have hmem : Piece.gap removed ∈ Piece.ofText (strip query) := by
        show Piece.gap removed ∈ Pieces.cutAll (Piece.ofText (strip query)) []
        rw [Option.map_none, Option.toList_none] at h
        rw [h]
        exact List.mem_append_right _ List.mem_cons_self
      exact absurd hmem (Pieces.gap_not_mem_ofText removed)
  | some found =>
      rw [hid] at h
      rcases id_firstAt hid with ⟨ahead, behind, hfirst, hafter⟩
      have hplace := Pattern.foundAt_of_search Pattern.covers_idExpression hid
      have hcut : Pieces.cutFirst found.span.text (Piece.ofText (strip query)) =
          front ++ .gap removed :: .kept c place :: back := h
      rw [hfirst.cut] at hcut
      have hnoGap : forall part : List Piece, part ⊆ Piece.ofText (strip query) ->
          Piece.gap removed ∉ part := by
        intro part hpart hmem
        exact Pieces.gap_not_mem_ofText removed (hpart hmem)
      have hahead : ahead ⊆ Piece.ofText (strip query) := by
        rw [hfirst.split, List.append_assoc]
        exact List.subset_append_left _ _
      have hbehind : behind ⊆ Piece.ofText (strip query) := by
        rw [hfirst.split]
        exact List.subset_append_right _ _
      have hparts := (List.append_cons_inj_of_notMem (hnoGap ahead hahead)
        (hnoGap behind hbehind)).mp hcut
      apply (Pattern.idExpression_hit hplace.fits).2
      show found.after.head? = some c
      rw [← hafter, hparts.2.2]
      rfl

/-!
## The price forms where they were found
-/

theorem formSpan?_eq_some
    {allowed : Char -> Prop} {query : List Char} {pattern : Pattern PricePredicate} {span : Span}
    (hcovers : Pattern.Covers allowed pattern) (h : formSpan? query pattern = some span) :
    exists found : Pattern.Match PricePredicate,
      Pattern.FoundAt pattern (Pieces.chars (unmarked query)) found ∧ found.span = span := by
  rcases Option.map_eq_some_iff.mp h with ⟨found, hfound, hspan⟩
  exact ⟨found, Pattern.foundAt_of_search hcovers hfound, hspan⟩

theorem price_span
    {query : List Char} {span : Span}
    (h : formSpan? query Pattern.priceExpression = some span) :
    Pieces.chars (Pieces.segment span (unmarked query)) = span.text ∧
      exists first : Char, exists others : List Char, span.text = first :: others ∧
        Pattern.sameLetter 'p' first = true := by
  rcases formSpan?_eq_some Pattern.covers_priceExpression h with ⟨found, hplace, hspan⟩
  rcases Pattern.priceExpression_hit hplace.fits with ⟨first, front, back, htext, hfirst, _⟩
  rw [← hspan]
  exact ⟨hplace.segment.2.1, first, front ++ back, htext, hfirst⟩

theorem price_span_hyphen
    {query : List Char} {span : Span}
    (h : formSpan? query Pattern.priceExpression = some span) (hhyphen : '-' ∈ span.text) :
    exists first : Char, exists front tail : List Char, exists high : Pattern.Digits,
      exists before : Option Char,
        span.text = (first :: front) ++ '-' :: tail ∧ Pattern.sameLetter 'p' first = true ∧
          '-' ∉ first :: front ∧ '-' ∉ tail ∧
          Pattern.rangeEnd before ('-' :: (tail ++
            Pieces.chars ((unmarked query).drop (span.start + span.text.length)))) =
              some ⟨high, '-' :: tail,
                Pieces.chars ((unmarked query).drop (span.start + span.text.length))⟩ := by
  rcases formSpan?_eq_some Pattern.covers_priceExpression h with ⟨found, hplace, hspan⟩
  rcases Pattern.priceExpression_hit hplace.fits with
    ⟨first, front, back, htext, hfirst, hfront, hback⟩
  rcases hplace.segment with ⟨_, _, hafter⟩
  rw [← hspan] at hhyphen ⊢
  rw [hafter]
  have hnotFront : '-' ∉ first :: front := fun hmem => hfront '-' hmem rfl
  have hmem : '-' ∈ (first :: front) ++ back := htext ▸ hhyphen
  rcases List.mem_append.mp hmem with hbefore | hbehind
  · exact absurd hbefore hnotFront
  · rcases hback with hnil | ⟨high, before, hmarked⟩
    · rw [hnil] at hbehind
      cases hbehind
    · rcases Pattern.rangeEnd_hit hmarked with ⟨tail, hbackText, htail⟩
      have hbackEq : back = '-' :: tail := hbackText
      rw [hbackEq] at htext hmarked
      have hnotTail : '-' ∉ tail := Pattern.hyphen_not_mem_amount htail
      exact ⟨first, front, tail, high, before, htext, hfirst, hnotFront, hnotTail, hmarked⟩

theorem range_span
    {query : List Char} {span : Span} (h : formSpan? query Pattern.bareRange = some span) :
    Pieces.chars (Pieces.segment span (unmarked query)) = span.text ∧
      exists lead rest : List Char, exists low : Pattern.Digits, exists value : PricePredicate,
        span.text = lead ++ '-' :: rest ∧
          (forall c : Char, c ∈ lead -> Pattern.IsAmountChar c) ∧
          (forall c : Char, c ∈ rest -> Pattern.IsAmountChar c) ∧
          Pattern.bareRangeEnd low (some '-') (rest ++
            Pieces.chars ((unmarked query).drop (span.start + span.text.length))) =
              some ⟨value, rest,
                Pieces.chars ((unmarked query).drop (span.start + span.text.length))⟩ := by
  rcases formSpan?_eq_some Pattern.covers_bareRange h with ⟨found, hplace, hspan⟩
  rcases Pattern.bareRange_hit hplace.fits with ⟨lead, rest, htext, hlead, hrest, low, hend⟩
  rcases hplace.segment with ⟨_, hsegment, hafter⟩
  rw [← hspan, hafter]
  exact ⟨hsegment, lead, rest, low, found.value, htext, hlead, hrest, hend⟩

theorem comparison_span
    {query : List Char} {span : Span} (h : formSpan? query Pattern.bareComparison = some span) :
    span.text ≠ [] ∧ Pieces.chars (Pieces.segment span (unmarked query)) = span.text ∧
      (forall c : Char, c ∈ span.text -> Pattern.IsComparisonChar c) ∧
      Pattern.continuesNumber
        (Pieces.chars ((unmarked query).drop (span.start + span.text.length))) = false := by
  rcases formSpan?_eq_some Pattern.covers_bareComparison h with ⟨found, hplace, hspan⟩
  rcases hplace.segment with ⟨_, hsegment, hafter⟩
  rw [← hspan, hafter]
  rcases Pattern.bareComparison_hit hplace.fits with ⟨hne, hends⟩
  exact ⟨hne, hsegment, Pattern.covers_bareComparison.chars hplace.fits, hends⟩

/-- A bare range that shares its hyphen with a marked price is a part of it. -/
theorem range_within_price
    {query : List Char} {price range : Span} {place : Nat}
    (hprice : formSpan? query Pattern.priceExpression = some price)
    (hrange : formSpan? query Pattern.bareRange = some range)
    (hshared : .kept '-' place ∈ Pieces.segment price (unmarked query))
    (hin : .kept '-' place ∈ Pieces.segment range (unmarked query)) :
    Pieces.segment range (unmarked query) ⊆ Pieces.segment price (unmarked query) := by
  have hpriceChars := (price_span hprice).1
  have hhyphen : '-' ∈ price.text := by
    rw [← hpriceChars]
    exact List.mem_map_of_mem hshared
  rcases price_span_hyphen hprice hhyphen with
    ⟨first, front, tail, high, before, htext, hfirst, hfront, htail, hmarked⟩
  rcases range_span hrange with
    ⟨hrangeChars, lead, rest, low, value, htext', hlead, hrest, hbare⟩
  rw [htext] at hpriceChars
  rw [htext'] at hrangeChars
  rcases Pieces.marked_split_at hfront htail hpriceChars hshared with
    ⟨left, right, hparts, hleft, hright⟩
  rcases Pieces.marked_split_at (Pattern.hyphen_not_mem_amount hlead)
    (Pattern.hyphen_not_mem_amount hrest) hrangeChars hin with
    ⟨left', right', hparts', hleft', hright'⟩
  have hsplit := Pieces.segment_split_at hparts
  have hsplit' := Pieces.segment_split_at hparts'
  generalize (unmarked query).drop (price.start + price.text.length) = behind at hsplit hmarked
  generalize (unmarked query).drop (range.start + range.text.length) = behind' at hsplit' hbare
  rcases Pieces.split_unique (describes_unmarked query).nodup hsplit hsplit'
    (List.mem_singleton.mpr rfl) (List.mem_singleton.mpr rfl) with ⟨hfronts, _, hbacks⟩
  have hchars : tail ++ Pieces.chars behind = rest ++ Pieces.chars behind' := by
    rw [← hright, ← hright', ← Pieces.chars_append, ← Pieces.chars_append, hbacks]
  rw [← hchars] at hbare
  have hends := Pattern.rangeEnd_text hmarked hbare
  injection hends with _ htailEq
  have hrightLength : right.length = right'.length := by
    rw [← Pieces.length_chars right, ← Pieces.length_chars right', hright, hright', htailEq]
  have hrightEq := (List.append_inj hbacks hrightLength).1
  have hfirstLead := Pattern.p_not_mem_amount hfirst hlead
  have hleftSubset : left' ⊆ left := by
    rcases List.append_eq_append_iff.mp hfronts with ⟨more, _, hleftSplit⟩ | ⟨more, _, hleftSplit⟩
    · rw [hleftSplit]
      exact List.subset_append_right _ _
    · exfalso
      apply hfirstLead
      rw [← hleft', hleftSplit, Pieces.chars_append, hleft]
      exact List.mem_append_right _ List.mem_cons_self
  rw [hparts, hparts', hrightEq]
  intro piece hmem
  rcases List.mem_append.mp hmem with hbefore | hbehind
  · exact List.mem_append_left _ (hleftSubset hbefore)
  · exact List.mem_append_right _ hbehind

/-!
## Exact cuts are in place

The price is told by its first letter, the bare range by its hyphen, and the comparison is what
is left.
-/

theorem formSpans_ne_nil
    {query : List Char} {span : Span} (h : span ∈ formSpans query) :
    span.text ≠ [] := by
  rcases List.mem_append.mp h with hprice | hothers
  · rcases price_span (Option.mem_toList.mp hprice) with ⟨_, first, others, htext, _⟩
    rw [htext]
    exact List.cons_ne_nil first others
  · rcases List.mem_append.mp hothers with hrange | hcomparison
    · rcases range_span (Option.mem_toList.mp hrange) with ⟨_, lead, rest, _, _, htext, _⟩
      rw [htext]
      exact List.append_ne_nil_of_right_ne_nil lead (List.cons_ne_nil _ _)
    · exact (comparison_span (Option.mem_toList.mp hcomparison)).1

theorem hyphen_not_in_comparison
    {query : List Char} {span : Span}
    (h : formSpan? query Pattern.bareComparison = some span) :
    '-' ∉ Pieces.chars (Pieces.segment span (unmarked query)) := by
  rcases comparison_span h with ⟨_, hsegment, hchars, _⟩
  rw [hsegment]
  exact fun hmem => Pattern.not_isComparisonChar_hyphen (hchars '-' hmem)

theorem price_firstAt
    {query : List Char} {price : Span}
    (hprice : formSpan? query Pattern.priceExpression = some price)
    (h : Pieces.TakesExactly (unmarked query) (unmarked query)
      (price :: ((formSpan? query Pattern.bareRange).toList ++
        (formSpan? query Pattern.bareComparison).toList))) :
    Pieces.FirstAt price.text (unmarked query) ((unmarked query).take price.start)
      (Pieces.segment price (unmarked query))
      ((unmarked query).drop (price.start + price.text.length)) := by
  rcases price_span hprice with ⟨hsegment, first, others, htext, hfirst⟩
  refine Pieces.firstAt_of_mark (describes_unmarked query) hsegment htext
    (Pattern.not_space_p hfirst) List.not_mem_nil ?_ ?_ h
  · intro other hmem
    exact formSpans_ne_nil (List.mem_append_right _ hmem)
  · intro other hmem hshown
    rcases List.mem_append.mp hmem with hrange | hcomparison
    · rcases range_span (Option.mem_toList.mp hrange) with
        ⟨hrangeSegment, lead, rest, _, _, hrangeText, hlead, hrest, _⟩
      rw [hrangeSegment, hrangeText] at hshown
      rcases List.mem_append.mp hshown with hbefore | hbehind
      · exact Pattern.p_not_mem_amount hfirst hlead hbefore
      · rcases List.mem_cons.mp hbehind with heq | hafter
        · rw [heq] at hfirst
          cases hfirst
        · exact Pattern.p_not_mem_amount hfirst hrest hafter
    · rcases comparison_span (Option.mem_toList.mp hcomparison) with ⟨_, hother, hchars, _⟩
      rw [hother] at hshown
      exact Pattern.not_isComparisonChar_p hfirst (hchars first hshown)

theorem range_firstAt
    {query : List Char} {range : Span}
    (hrange : formSpan? query Pattern.bareRange = some range)
    (h : Pieces.TakesExactly (unmarked query) (unmarked query)
      (range :: (formSpan? query Pattern.bareComparison).toList)) :
    Pieces.FirstAt range.text (unmarked query) ((unmarked query).take range.start)
      (Pieces.segment range (unmarked query))
      ((unmarked query).drop (range.start + range.text.length)) := by
  rcases range_span hrange with ⟨hsegment, lead, rest, _, _, htext, hlead, _⟩
  refine Pieces.firstAt_of_mark (describes_unmarked query) hsegment htext (by decide)
    (Pattern.hyphen_not_mem_amount hlead) ?_ ?_ h
  · intro other hmem
    exact formSpans_ne_nil (List.mem_append_right _ (List.mem_append_right _ hmem))
  · intro other hmem
    exact hyphen_not_in_comparison (Option.mem_toList.mp hmem)

/-- The comparison does not end directly before a `p`: its last number would go on. -/
theorem not_mem_comparison_before_p
    {query : List Char} {span : Span} {front back : List Piece} {c first : Char} {place start : Nat}
    (hspan : formSpan? query Pattern.bareComparison = some span)
    (hsplit : unmarked query = front ++ .kept c place :: .kept first start :: back)
    (hfirst : Pattern.sameLetter 'p' first = true) :
    place ∉ Pieces.places (Pieces.segment span (unmarked query)) := by
  have hnodup := (describes_unmarked query).nodup
  intro hin
  rcases comparison_span hspan with ⟨_, hcomparison, hchars, hends⟩
  have hkept : Piece.kept c place ∈ unmarked query := by
    rw [hsplit]
    exact List.mem_append_right _ List.mem_cons_self
  have hmem := Pieces.mem_segment_of_kept hnodup hkept hin
  rcases List.append_of_mem hmem with ⟨left, right, hparts⟩
  rcases Pieces.split_unique hnodup hsplit (Pieces.segment_split_at hparts)
    (List.mem_singleton.mpr rfl) (List.mem_singleton.mpr rfl) with ⟨_, _, hrest⟩
  cases right with
  | nil =>
      rw [List.nil_append] at hrest
      rw [← hrest] at hends
      exact Bool.false_ne_true (hends.symm.trans (Pattern.continuesNumber_p hfirst))
  | cons next right =>
      rw [List.cons_append] at hrest
      injection hrest with hnext _
      apply Pattern.not_isComparisonChar_p hfirst
      apply hchars
      rw [← hcomparison, hparts, ← hnext, Pieces.chars_append]
      exact List.mem_append_right _ (List.mem_cons_of_mem _ List.mem_cons_self)

/-- What stands directly before a marked price is kept and is no part of the comparison: the id
would go on, and so would the last number of the comparison. -/
theorem kept_before_price
    {query : List Char} {price : Span} {before : List Piece} {piece : Piece}
    (hprice : formSpan? query Pattern.priceExpression = some price)
    (h : (unmarked query).take price.start = before ++ [piece]) :
    exists c : Char, exists place : Nat, piece = .kept c place ∧
      forall span : Span, formSpan? query Pattern.bareComparison = some span ->
        place ∉ Pieces.places (Pieces.segment span (unmarked query)) := by
  rcases price_span hprice with ⟨hsegment, first, others, htext, hfirst⟩
  rw [htext] at hsegment
  rcases Pieces.chars_eq_cons hsegment with ⟨head, tail, hsegmentSplit, hhead, _⟩
  rcases Pieces.eq_kept_of_char hhead (Pattern.not_space_p hfirst) with ⟨start, hheadEq⟩
  have hsplit := Pieces.segment_split price (unmarked query)
  generalize (unmarked query).drop (price.start + price.text.length) = behind at hsplit
  rw [h, hsegmentSplit, hheadEq] at hsplit
  simp only [List.append_assoc, List.cons_append, List.nil_append] at hsplit
  cases piece with
  | gap removed =>
      exact absurd ((not_isIdChar_after_gap hsplit).symm.trans (Pattern.isIdChar_p hfirst))
        Bool.false_ne_true
  | kept c place =>
      exact ⟨c, place, rfl, fun span hspan => not_mem_comparison_before_p hspan hsplit hfirst⟩

/-- A hyphen that is cut after a first cut was cut by it, not by the comparison. -/
theorem hyphen_cut_before_comparison
    {query text : List Char} {place : Nat} (hne : text ≠ [])
    (hkept : Piece.kept '-' place ∈ unmarked query)
    (h : place ∈ Pieces.cutPlaces (Pieces.cutAll (Pieces.cutFirst text (unmarked query))
      (formSpan? query Pattern.bareComparison).toList)) :
    place ∈ Pieces.cutPlaces (Pieces.cutFirst text (unmarked query)) := by
  cases hcomparison : formSpan? query Pattern.bareComparison with
  | none =>
      rw [hcomparison] at h
      exact h
  | some span =>
      rw [hcomparison] at h
      rcases comparison_span hcomparison with ⟨hspan, _, hchars, _⟩
      rcases (Pieces.mem_cutPlaces_cutFirst hspan place).mp h with hbefore | hlast
      · exact hbefore
      · rcases Pieces.cutFirst_cases hspan (Pieces.cutFirst text (unmarked query)) with
          hnone | ⟨front, found, back, hfirst⟩
        · rw [hnone.occurrence] at hlast
          cases hlast
        · rw [hfirst.occurrence] at hlast
          rcases Pieces.mem_keptPlaces hlast with ⟨c, hmem⟩
          have hkeptC : Piece.kept c place ∈ unmarked query := by
            apply Pieces.kept_mem_of_mem_cutFirst hne
            rw [hfirst.split]
            exact List.mem_append_left _ (List.mem_append_right _ hmem)
          have hc := Pieces.kept_unique (describes_unmarked query).nodup hkeptC hkept
          have hshown : c ∈ Pieces.chars found := List.mem_map_of_mem hmem
          rw [hfirst.text, hc] at hshown
          exact absurd (hchars '-' hshown) Pattern.not_isComparisonChar_hyphen

/-- A bare range that occurs nowhere after the price was cut is a part of the price. -/
theorem range_within_price_of_absent
    {query : List Char} {price range : Span}
    (hprice : formSpan? query Pattern.priceExpression = some price)
    (hrange : formSpan? query Pattern.bareRange = some range)
    (hpriceFirst : Pieces.FirstAt price.text (unmarked query) ((unmarked query).take price.start)
      (Pieces.segment price (unmarked query))
      ((unmarked query).drop (price.start + price.text.length)))
    (h : Pieces.TakesExactly (unmarked query) (Pieces.cutFirst price.text (unmarked query))
      (range :: (formSpan? query Pattern.bareComparison).toList))
    (habsent : Pieces.Absent range.text (Pieces.cutFirst price.text (unmarked query))) :
    Pieces.segment range (unmarked query) ⊆ Pieces.segment price (unmarked query) := by
  have hnodup := (describes_unmarked query).nodup
  have hpriceNe : price.text ≠ [] :=
    formSpans_ne_nil (List.mem_append_left _ (Option.mem_toList.mpr hprice))
  rcases range_span hrange with ⟨hsegment, lead, rest, _, _, htext, _⟩
  rcases Pieces.marked_split (by decide) (hsegment.trans htext) with
    ⟨left, right, place, hparts, _⟩
  have hin : Piece.kept '-' place ∈ Pieces.segment range (unmarked query) := by
    rw [hparts]
    exact List.mem_append_right _ List.mem_cons_self
  have hplace : place ∈ Pieces.places (Pieces.segment range (unmarked query)) :=
    List.mem_flatMap.mpr ⟨_, hin, List.mem_singleton.mpr rfl⟩
  have hkept : Piece.kept '-' place ∈ unmarked query := by
    rw [Pieces.segment_split range (unmarked query)]
    exact List.mem_append_left _ (List.mem_append_right _ hin)
  have hbefore : place ∈ Pieces.cutPlaces (Pieces.cutFirst price.text (unmarked query)) :=
    hyphen_cut_before_comparison hpriceNe hkept (h.mem_of_absent habsent hplace)
  rcases (Pieces.mem_cutPlaces_cut hpriceFirst place).mp hbefore with hid | hshared
  · exact absurd hid (Pieces.not_mem_cutPlaces hnodup (Pieces.mem_keptPlaces_of_mem hkept))
  · have hinPrice := Pieces.mem_segment_of_kept hnodup hkept
      ((Pieces.mem_places _ place).mpr (Or.inl hshared))
    exact range_within_price hprice hrange hinPrice hin

theorem range_inPlace_after_price
    {query : List Char} {price range : Span}
    (hprice : formSpan? query Pattern.priceExpression = some price)
    (hrange : formSpan? query Pattern.bareRange = some range)
    (hpriceFirst : Pieces.FirstAt price.text (unmarked query) ((unmarked query).take price.start)
      (Pieces.segment price (unmarked query))
      ((unmarked query).drop (price.start + price.text.length)))
    (h : Pieces.TakesExactly (unmarked query) (Pieces.cutFirst price.text (unmarked query))
      (range :: (formSpan? query Pattern.bareComparison).toList)) :
    Pieces.InPlace (unmarked query) (Pieces.cutFirst price.text (unmarked query)) range := by
  have hbase := describes_unmarked query
  have hnodup := hbase.nodup
  have hpriceNe : price.text ≠ [] :=
    formSpans_ne_nil (List.mem_append_left _ (Option.mem_toList.mpr hprice))
  have hpieces := hbase.cutFirst hpriceNe
  rcases price_span hprice with ⟨hpriceSegment, first, others, hpriceText, hfirst⟩
  rcases range_span hrange with ⟨hsegment, lead, rest, _, _, htext, hlead, hrest, _⟩
  have hne : forall other : Span,
      other ∈ (formSpan? query Pattern.bareComparison).toList -> other.text ≠ [] := by
    intro other hmem
    exact @formSpans_ne_nil query other
      (List.mem_append_right _ (List.mem_append_right _ hmem))
  rw [hpriceText] at hpriceSegment
  refine Pieces.inPlace_after_cut hbase hpriceFirst.split hpieces hpriceFirst.cut
    (hsegment.trans htext) htext (by decide) (Pattern.hyphen_not_mem_amount hlead)
    (Pattern.hyphen_not_mem_amount hrest) hpriceSegment (Pattern.p_not_mem_amount hfirst hlead)
    (Pattern.p_not_mem_amount hfirst hrest) ?_ ?_ ?_
  · intro habsent place hplace
    have hsubset := range_within_price_of_absent hprice hrange hpriceFirst h habsent
    rcases List.mem_flatMap.mp hplace with ⟨piece, hmem, hpiece⟩
    rw [hpriceFirst.cut, Pieces.cutPlaces_append]
    apply List.mem_append_right
    apply List.mem_append_left
    exact List.mem_flatMap.mpr ⟨piece, hsubset hmem, hpiece⟩
  · intro front found back hrangeFirst place hkept
    rcases h.mem_spans hpieces hne hrangeFirst hkept with hthis | ⟨other, hmem, hplace⟩
    · exact hthis
    · have hkeptBase : Piece.kept '-' place ∈ unmarked query := by
        apply Pieces.kept_mem_of_mem_cutFirst hpriceNe
        rw [hrangeFirst.split]
        exact List.mem_append_left _ (List.mem_append_right _ hkept)
      have hshown := Pieces.mem_segment_of_kept hnodup hkeptBase hplace
      exact absurd (List.mem_map_of_mem hshown)
        (hyphen_not_in_comparison (Option.mem_toList.mp hmem))
  · intro front found back hrangeFirst before piece hahead hmemFound
    rcases kept_before_price hprice hahead with ⟨c, place, hpiece, hforeign⟩
    rw [hpiece] at hmemFound ⊢
    refine ⟨place, List.mem_singleton.mpr rfl, ?_⟩
    rcases h.mem_spans hpieces hne hrangeFirst hmemFound with hthis | ⟨other, hmem, hplace⟩
    · exact hthis
    · exact absurd hplace (hforeign other (Option.mem_toList.mp hmem))

theorem cutsExactly_iff_takesExactly (query : List Char) :
    CutsExactly query <->
      Pieces.TakesExactly (unmarked query) (unmarked query) (formSpans query) := by
  unfold CutsExactly Pieces.TakesExactly expressionPlaces uncutPieces
  constructor
  · intro h place
    rw [h place, List.mem_append, mem_cutPlaces_unmarked]
  · intro h place
    rw [h place, List.mem_append, mem_cutPlaces_unmarked]

theorem cutsInPlace_of_cutsExactly
    {query : List Char} (h : CutsExactly query) :
    CutsInPlace query := by
  have hbase := describes_unmarked query
  have hne : forall span : Span, span ∈ formSpans query -> span.text ≠ [] :=
    fun _ => formSpans_ne_nil
  have hneLast : forall one : Span,
      one ∈ formSpan? query Pattern.bareComparison -> one.text ≠ [] := by
    intro one hmem
    exact hne one (List.mem_append_right _
      (List.mem_append_right _ (Option.mem_toList.mpr hmem)))
  rw [cutsExactly_iff_takesExactly] at h
  apply CutsInPlace.mk
  unfold formSpans at h hne ⊢
  cases hprice : formSpan? query Pattern.priceExpression with
  | none =>
      rw [hprice, Option.toList_none, List.nil_append] at h
      cases hrange : formSpan? query Pattern.bareRange with
      | none =>
          rw [hrange, Option.toList_none, List.nil_append] at h
          exact h.last hbase hbase hneLast
      | some range =>
          rw [hrange, Option.toList_some, List.singleton_append] at h
          have hneRange : range.text ≠ [] := hne range (by simp [hrange])
          have hin := (range_firstAt hrange h).inPlace hbase
          exact ⟨hin, (h.after hbase hbase hneRange hin).last hbase (hbase.cutFirst hneRange)
            hneLast⟩
  | some price =>
      rw [hprice, Option.toList_some, List.singleton_append] at h
      have hnePrice : price.text ≠ [] := hne price (by simp [hprice])
      have hfirst := price_firstAt hprice h
      have hin := hfirst.inPlace hbase
      have hpieces := hbase.cutFirst hnePrice
      have hafter := h.after hbase hbase hnePrice hin
      refine ⟨hin, ?_⟩
      cases hrange : formSpan? query Pattern.bareRange with
      | none =>
          rw [hrange, Option.toList_none, List.nil_append] at hafter
          exact hafter.last hbase hpieces hneLast
      | some range =>
          rw [hrange, Option.toList_some, List.singleton_append] at hafter
          have hneRange : range.text ≠ [] := hne range (by simp [hrange])
          have hinRange := range_inPlace_after_price hprice hrange hfirst hafter
          exact ⟨hinRange, (hafter.after hbase hpieces hneRange hinRange).last hbase
            (hpieces.cutFirst hneRange) hneLast⟩

theorem cutsExactly_of_cutsInPlace
    {query : List Char} (h : CutsInPlace query) :
    CutsExactly query := by
  have hbase := describes_unmarked query
  rw [cutsExactly_iff_takesExactly]
  exact h.each.takesExactly hbase hbase fun _ => formSpans_ne_nil

/-!
## The keywords
-/

theorem chars_cutFound
    {α : Type} (pieces : List Piece) (found : Option (Pattern.Match α)) :
    Pieces.chars (Pieces.cutAll pieces (found.map Pattern.Match.span).toList) =
      cut (Pieces.chars pieces) found := by
  cases found with
  | none => rfl
  | some found => exact Pieces.chars_cutFirst found.text pieces

theorem chars_unmarked (query : List Char) :
    Pieces.chars (unmarked query) = (splitId (strip query)).2 := by
  unfold unmarked idSpan?
  rw [chars_cutFound, Pieces.chars_ofText]
  rfl

theorem chars_uncutPieces (query : List Char) :
    Pieces.chars (uncutPieces query) =
      (priceForms (splitId (strip query)).2).foldl cut (splitId (strip query)).2 := by
  rw [← chars_unmarked]
  unfold uncutPieces formSpans
  have happend : forall (pieces : List Piece) (front back : List Span),
      Pieces.cutAll pieces (front ++ back) = Pieces.cutAll (Pieces.cutAll pieces front) back :=
    fun _ _ _ => List.foldl_append
  rw [happend, happend]
  unfold formSpan?
  rw [chars_cutFound, chars_cutFound, chars_cutFound]
  rfl

theorem ofExpressions_residual (query : List Char) :
    (ofExpressions query).residual = lower (collapse (Pieces.chars (uncutPieces query))) := by
  rw [chars_uncutPieces]
  rfl

theorem terms_eq_words_uncutPieces (query : List Char) :
    (ofExpressions query).criteria.terms =
      ((words (Pieces.chars (uncutPieces query))).map lower).map String.ofList := by
  have hterms : (ofExpressions query).criteria.terms =
      (words (ofExpressions query).residual).map String.ofList := rfl
  rw [hterms, ofExpressions_residual, words_lower_collapse]

/-- The keywords of a query are exactly its words outside the expressions, in lower case, provided
that every price form is cut where it was found, which is also necessary for cutting nothing but
the expressions. -/
theorem terms_eq_wordsOutsideExpressions (query : List Char) :
    (ofExpressions query).criteria.terms =
        ((words (Pieces.chars (uncutPieces query))).map lower).map String.ofList ∧
      (CutsExactly query <-> CutsInPlace query) ∧
      (CutsInPlace query ->
        (ofExpressions query).criteria.terms = wordsOutsideExpressions query ∧
        (((untouchedWords (expressionPlaces query) (strip query)).map lower).map
          String.ofList).Sublist (ofExpressions query).criteria.terms) := by
  have hpieces : Pieces.Describes 0 (strip query) (uncutPieces query) :=
    (describes_unmarked query).cutAll fun _ => formSpans_ne_nil
  refine ⟨terms_eq_words_uncutPieces query,
    ⟨cutsInPlace_of_cutsExactly, cutsExactly_of_cutsInPlace⟩, ?_⟩
  intro h
  have hterms : (ofExpressions query).criteria.terms = wordsOutsideExpressions query := by
    rw [terms_eq_words_uncutPieces, wordsOutsideExpressions,
      hpieces.words_chars (cutsExactly_of_cutsInPlace h)]
  refine ⟨hterms, ?_⟩
  rw [hterms]
  have huntouched := untouchedWords_sublist (expressionPlaces query) (strip query)
  exact (huntouched.map lower).map String.ofList

theorem terms_eq_wordsOutsideExpressions_lamp :
    CutsInPlace "id:ab-1 Lamp price:<5 red 6-7".toList ∧
      (ofExpressions "id:ab-1 Lamp price:<5 red 6-7".toList).criteria.terms =
        wordsOutsideExpressions "id:ab-1 Lamp price:<5 red 6-7".toList := by
  have hid : idSpan? "id:ab-1 Lamp price:<5 red 6-7".toList = some ⟨0, "id:ab-1".toList⟩ := by
    decide +kernel
  have hunmarked : Pieces.chars (unmarked "id:ab-1 Lamp price:<5 red 6-7".toList) =
      "  Lamp price:<5 red 6-7".toList := by
    decide +kernel
  have hspans : formSpans "id:ab-1 Lamp price:<5 red 6-7".toList =
      [⟨7, "price:<5 ".toList⟩, ⟨19, " 6-7".toList⟩, ⟨13, "<5".toList⟩] := by
    unfold formSpans formSpan?
    rw [hunmarked]
    decide +kernel
  have hplace : CutsInPlace "id:ab-1 Lamp price:<5 red 6-7".toList := by
    constructor
    unfold unmarked
    rw [hspans, hid]
    decide
  rcases (terms_eq_wordsOutsideExpressions "id:ab-1 Lamp price:<5 red 6-7".toList).2.2 hplace with
    ⟨hterms, _⟩
  exact ⟨hplace, hterms⟩

/-- The comparison is cut out of another word that only begins with it. -/
theorem terms_ne_wordsOutsideExpressions_hdmi :
    (ofExpressions "hdmi <5m cable <5".toList).criteria.terms ≠
      wordsOutsideExpressions "hdmi <5m cable <5".toList := by
  have hterms : (ofExpressions "hdmi <5m cable <5".toList).criteria.terms =
      ["hdmi", "m", "cable", "<5"] := by decide +kernel
  have hwords : wordsOutsideExpressions "hdmi <5m cable <5".toList =
      ["hdmi", "<5m", "cable"] := by decide +kernel
  rw [hterms, hwords]
  decide

end Reading

end CatalogSearch
