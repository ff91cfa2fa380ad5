import CatalogSearch.Proofs.Query.Phrases
import CatalogSearch.Proofs.Query.Spans
import CatalogSearch.Query.Interpretation

/-!
# Phrases lifted out of a query

The price phrase that is adopted and the sort phrase are found by their patterns but lifted out
by their text.  The words to be found are right exactly if every phrase is lifted where it was
found.
-/

namespace CatalogSearch

open Text

namespace Phrase

open Pattern

def foundPrice? (text : List Char) : Option (Match PriceBound) :=
  (firstFound (fun pattern => pattern) text prices).bind fun found =>
    found.2.value.condition.map fun _ => found.2

def foundSort? (text : List Char) : Option (Match Unit) :=
  (firstFound Prod.fst text sorts).map Prod.snd

theorem price?_phrase (text : List Char) :
    (price? text).map Prod.snd = (foundPrice? text).map Match.text := by
  unfold price? foundPrice?
  cases firstFound (fun pattern => pattern) text prices with
  | none => rfl
  | some found =>
      rcases found with ⟨pattern, found⟩
      simp only [Option.bind_some]
      cases found.value.condition with
      | none => rfl
      | some condition => rfl

theorem sort?_phrase (text : List Char) :
    (sort? text).map Prod.snd = (foundSort? text).map Match.text := by
  unfold sort? foundSort?
  rw [Option.map_map, Option.map_map]
  rfl

theorem foundPrice?_eq_some
    {text : List Char} {found : Match PriceBound} (h : foundPrice? text = some found) :
    exists pattern : Pattern PriceBound, IsPricePhrase pattern ∧
      FoundAt pattern text found := by
  unfold foundPrice? at h
  rcases Option.bind_eq_some_iff.mp h with ⟨⟨pattern, other⟩, hfirst, hother⟩
  rcases Option.map_eq_some_iff.mp hother with ⟨_, _, heq⟩
  rcases firstFound_eq_some hfirst with ⟨hmem, hsearch⟩
  have hphrase := isPricePhrase_of_mem_prices hmem
  rw [← heq]
  exact ⟨pattern, hphrase, foundAt_of_search hphrase.covers hsearch⟩

theorem foundSort?_eq_some
    {text : List Char} {found : Match Unit} (h : foundSort? text = some found) :
    exists pattern : Pattern Unit, Covers (fun c => isDigit c = false) pattern ∧
      FoundAt pattern text found := by
  unfold foundSort? at h
  rcases Option.map_eq_some_iff.mp h with ⟨⟨entry, other⟩, hfirst, heq⟩
  rcases firstFound_eq_some hfirst with ⟨hmem, hsearch⟩
  have hcovers := covers_of_mem_sorts hmem
  rw [← heq]
  exact ⟨entry.1, hcovers, foundAt_of_search hcovers hsearch⟩

end Phrase

namespace Reading

/-!
## What is lifted
-/

def leftover (query : List Char) : List Char :=
  (ofExpressions query).residual

def adoptedPrice? (query : List Char) : Option Span :=
  if (ofExpressions query).criteria.price.isNone then
    (Phrase.foundPrice? (leftover query)).map Pattern.Match.span
  else none

def liftedSort? (query : List Char) : Option Span :=
  let names := (ofPhrases (leftover query)).criteria
  ((Phrase.foundSort? (leftover query)).map Pattern.Match.span).filter fun span =>
    !span.text.isEmpty && !isPartOfName span.text [names.brand, names.category]

def liftedSpans (query : List Char) : List Span :=
  (adoptedPrice? query).toList ++ (liftedSort? query).toList

def liftedPlaces (query : List Char) : List Nat :=
  (liftedSpans query).flatMap fun span =>
    Pieces.places (Pieces.segment span (Piece.ofText (leftover query)))

def liftedPieces (query : List Char) : List Piece :=
  Pieces.cutAll (Piece.ofText (leftover query)) (liftedSpans query)

def wordsOutsidePhrases (query : List Char) : List String :=
  ((words (blankPlaces (liftedPlaces query) (leftover query))).map String.ofList).filter
    fun term => !Phrase.stopwords.contains term

/-- The phrases are lifted out at their own places and nowhere else. -/
def LiftsExactly (query : List Char) : Prop :=
  forall place : Nat, place ∈ Pieces.cutPlaces (liftedPieces query) <-> place ∈ liftedPlaces query

/-- The first occurrence of every phrase is the place where it was found. -/
structure LiftsInPlace (query : List Char) : Prop where
  each : Pieces.EachInPlace (Piece.ofText (leftover query)) (Piece.ofText (leftover query))
    (liftedSpans query)

theorem leftover_normal (query : List Char) :
    collapse (lower (leftover query)) = leftover query :=
  collapse_lower_lower_collapse _

theorem ofPhrases_leftover (query : List Char) :
    (ofPhrases (leftover query)).criteria.price =
        (Phrase.price? (leftover query)).map Prod.fst ∧
      (ofPhrases (leftover query)).pricePhrase =
        (Phrase.price? (leftover query)).map Prod.snd ∧
      (ofPhrases (leftover query)).sortPhrase =
        (Phrase.sort? (leftover query)).map Prod.snd := by
  unfold ofPhrases
  rw [leftover_normal]
  cases hempty : leftover query with
  | nil =>
      have hprice : Phrase.price? [] = none := by rfl
      have hsort : Phrase.sort? [] = none := by rfl
      rw [hprice, hsort]
      exact ⟨rfl, rfl, rfl⟩
  | cons c rest => exact ⟨rfl, rfl, rfl⟩

theorem liftedPhrases_eq (query : List Char) :
    liftedPhrases (ofExpressions query) (ofPhrases (leftover query)) =
      (liftedSpans query).map Span.text := by
  rcases ofPhrases_leftover query with ⟨hprice, hpricePhrase, hsortPhrase⟩
  rw [Phrase.price?_phrase] at hpricePhrase
  rw [Phrase.sort?_phrase] at hsortPhrase
  have hpricePart : (if (ofExpressions query).criteria.price.isNone &&
      (ofPhrases (leftover query)).criteria.price.isSome then
        (ofPhrases (leftover query)).pricePhrase.toList else []) =
      (adoptedPrice? query).toList.map Span.text := by
    have hnone : (ofPhrases (leftover query)).criteria.price.isSome =
        (Phrase.foundPrice? (leftover query)).isSome := by
      have hphrase := congrArg Option.isSome (Phrase.price?_phrase (leftover query))
      rw [Option.isSome_map, Option.isSome_map] at hphrase
      rw [hprice, Option.isSome_map, hphrase]
    unfold adoptedPrice?
    rw [hnone, hpricePhrase]
    cases (ofExpressions query).criteria.price with
    | some price => rfl
    | none =>
        cases Phrase.foundPrice? (leftover query) with
        | none => rfl
        | some found => rfl
  have hsortPart : ((ofPhrases (leftover query)).sortPhrase.toList.filter fun phrase =>
      !phrase.isEmpty && !isPartOfName phrase
        [(ofPhrases (leftover query)).criteria.brand,
          (ofPhrases (leftover query)).criteria.category]) =
      (liftedSort? query).toList.map Span.text := by
    have hspans : (Phrase.foundSort? (leftover query)).map Pattern.Match.text =
        ((Phrase.foundSort? (leftover query)).map Pattern.Match.span).map Span.text := by
      rw [Option.map_map]
      rfl
    unfold liftedSort?
    rw [hsortPhrase, hspans, Option.toList_map, List.filter_map, Option.toList_filter]
    rfl
  unfold liftedPhrases liftedSpans
  rw [List.map_append, ← hpricePart, ← hsortPart]

theorem liftedSpans_ne_nil
    {query : List Char} {span : Span} (h : span ∈ liftedSpans query) :
    span.text ≠ [] := by
  rcases List.mem_append.mp h with hprice | hsort
  · unfold adoptedPrice? at hprice
    split at hprice
    · rw [Option.mem_toList, Option.map_eq_some_iff] at hprice
      rcases hprice with ⟨found, hfound, hspan⟩
      rcases Phrase.foundPrice?_eq_some hfound with ⟨pattern, hphrase, hplace⟩
      rcases hphrase.shows _ _ _ hplace.fits with ⟨c, hmem, _⟩
      rw [← hspan]
      exact List.ne_nil_of_mem hmem
    · cases hprice
  · unfold liftedSort? at hsort
    rw [Option.mem_toList, Option.filter_eq_some_iff] at hsort
    have hnonempty := (Bool.and_eq_true _ _ ▸ hsort.2).1
    intro hnil
    rw [hnil] at hnonempty
    cases hnonempty

theorem chars_cutAll
    {pieces : List Piece} {spans : List Span}
    (hne : forall span : Span, span ∈ spans -> span.text ≠ []) :
    Pieces.chars (Pieces.cutAll pieces spans) =
      (spans.map Span.text).foldl (fun text phrase =>
        if phrase.isEmpty then text else blankFirst phrase text) (Pieces.chars pieces) := by
  induction spans generalizing pieces with
  | nil => rfl
  | cons span spans ih =>
      have hspan : span.text.isEmpty = false := by
        cases htext : span.text with
        | nil => exact absurd htext (hne span List.mem_cons_self)
        | cons c rest => rfl
      have hcuts : Pieces.cutAll pieces (span :: spans) =
          Pieces.cutAll (Pieces.cutFirst span.text pieces) spans := rfl
      rw [hcuts, ih fun other hmem => hne other (List.mem_cons_of_mem span hmem), List.map_cons,
        List.foldl_cons, hspan, if_neg Bool.false_ne_true, Pieces.chars_cutFirst]

theorem terms_eq_words_liftedPieces (query : List Char) :
    (ofQuery query).criteria.terms =
      ((words (Pieces.chars (liftedPieces query))).map String.ofList).filter
        fun term => !Phrase.stopwords.contains term := by
  have hterms : (ofQuery query).criteria.terms =
      requiredTerms (ofExpressions query) (ofPhrases (leftover query)) := rfl
  rw [hterms, requiredTerms, liftedPhrases_eq]
  have hpieces : Pieces.chars (liftedPieces query) =
      ((liftedSpans query).map Span.text).foldl (fun text phrase =>
        if phrase.isEmpty then text else blankFirst phrase text) (leftover query) := by
    rw [liftedPieces, chars_cutAll fun _ => liftedSpans_ne_nil, Pieces.chars_ofText]
  rw [hpieces]
  cases hspans : liftedSpans query with
  | nil => rfl
  | cons span spans =>
      have hsome : ((span :: spans).map Span.text).isEmpty = false := rfl
      rw [hsome, if_neg Bool.false_ne_true, Phrase.withoutPhrases, words_collapse]
      rfl

/-!
## Exactly the phrases
-/

theorem adoptedPrice?_eq_some
    {query : List Char} {span : Span} (h : adoptedPrice? query = some span) :
    Pieces.chars (Pieces.segment span (Piece.ofText (leftover query))) = span.text ∧
      exists lead rest : List Char, exists mark : Char, span.text = lead ++ mark :: rest ∧
        isDigit mark = true ∧ forall c : Char, c ∈ lead -> isDigit c = false := by
  unfold adoptedPrice? at h
  split at h
  · rcases Option.map_eq_some_iff.mp h with ⟨found, hfound, hspan⟩
    rcases Phrase.foundPrice?_eq_some hfound with ⟨pattern, hphrase, hplace⟩
    rcases hphrase.shows _ _ _ hplace.fits with ⟨c, hmem, hc⟩
    have hsome : (found.text.find? isDigit).isSome = true :=
      List.find?_isSome.mpr ⟨c, hmem, hc⟩
    rcases Option.isSome_iff_exists.mp hsome with ⟨mark, hmark⟩
    rcases List.find?_eq_some_iff_append.mp hmark with ⟨hdigit, lead, rest, htext, hlead⟩
    rw [← Pieces.chars_ofText (leftover query)] at hplace
    rcases hplace.segment with ⟨_, hsegment, _⟩
    rw [← hspan]
    refine ⟨hsegment, lead, rest, mark, htext, hdigit, ?_⟩
    intro d hmem
    have hd := hlead d hmem
    rw [Bool.not_eq_true'] at hd
    exact hd
  · cases h

theorem liftedSort?_eq_some
    {query : List Char} {span : Span} (h : liftedSort? query = some span) :
    forall c : Char,
      c ∈ Pieces.chars (Pieces.segment span (Piece.ofText (leftover query))) ->
        isDigit c = false := by
  unfold liftedSort? at h
  rw [Option.filter_eq_some_iff] at h
  rcases Option.map_eq_some_iff.mp h.1 with ⟨found, hfound, hspan⟩
  rcases Phrase.foundSort?_eq_some hfound with ⟨pattern, hcovers, hplace⟩
  have hdigits := hcovers.chars hplace.fits
  rw [← Pieces.chars_ofText (leftover query)] at hplace
  rcases hplace.segment with ⟨_, hsegment, _⟩
  rw [← hspan, hsegment]
  exact hdigits

theorem liftsExactly_iff_takesExactly (query : List Char) :
    LiftsExactly query <->
      Pieces.TakesExactly (Piece.ofText (leftover query)) (Piece.ofText (leftover query))
        (liftedSpans query) := by
  unfold Pieces.TakesExactly
  rw [Pieces.cutPlaces_ofText]
  simp only [List.not_mem_nil, false_or]
  exact Iff.rfl

theorem liftsInPlace_of_liftsExactly
    {query : List Char} (h : LiftsExactly query) :
    LiftsInPlace query := by
  have hne : forall span : Span, span ∈ liftedSpans query -> span.text ≠ [] :=
    fun _ => liftedSpans_ne_nil
  have hbase := Pieces.describes_ofText (leftover query)
  rw [liftsExactly_iff_takesExactly] at h
  apply LiftsInPlace.mk
  unfold liftedSpans at h hne ⊢
  have hneSort : forall one : Span, one ∈ liftedSort? query -> one.text ≠ [] := by
    intro one hmem
    exact hne one (List.mem_append_right _ (Option.mem_toList.mpr hmem))
  cases hprice : adoptedPrice? query with
  | none =>
      rw [hprice, Option.toList_none, List.nil_append] at h
      exact h.last hbase hbase hneSort
  | some span =>
      rw [hprice, Option.toList_some, List.singleton_append] at h hne
      rcases adoptedPrice?_eq_some hprice with ⟨hspan, lead, rest, mark, htext, hmark, hlead⟩
      have hneSpan := hne span List.mem_cons_self
      have hfirst := Pieces.firstAt_of_mark hbase hspan htext
        (by
          intro hblank
          rw [hblank] at hmark
          exact absurd hmark (by decide))
        (by
          intro hmem
          rw [hlead mark hmem] at hmark
          cases hmark)
        (fun other hmem => hne other (List.mem_cons_of_mem span hmem))
        (by
          intro other hmem hshown
          rw [liftedSort?_eq_some (Option.mem_toList.mp hmem) mark hshown] at hmark
          cases hmark)
        h
      have hin := hfirst.inPlace hbase
      refine ⟨hin, ?_⟩
      exact (h.after hbase hbase hneSpan hin).last hbase (hbase.cutFirst hneSpan) hneSort

theorem liftsExactly_of_liftsInPlace
    {query : List Char} (h : LiftsInPlace query) :
    LiftsExactly query := by
  have hbase := Pieces.describes_ofText (leftover query)
  rw [liftsExactly_iff_takesExactly]
  exact h.each.takesExactly hbase hbase fun _ => liftedSpans_ne_nil

theorem describes_liftedPieces (query : List Char) :
    Pieces.Describes 0 (leftover query) (liftedPieces query) :=
  (Pieces.describes_ofText (leftover query)).cutAll fun _ => liftedSpans_ne_nil

/-- The words to be found are exactly the words outside the phrases that were lifted, provided
that every phrase is lifted where it was found, which is also necessary for lifting nothing but
the phrases. -/
theorem terms_eq_wordsOutsidePhrases (query : List Char) :
    (ofQuery query).criteria.terms =
        ((words (Pieces.chars (liftedPieces query))).map String.ofList).filter
          (fun term => !Phrase.stopwords.contains term) ∧
      (LiftsExactly query <-> LiftsInPlace query) ∧
      (LiftsInPlace query ->
        (ofQuery query).criteria.terms = wordsOutsidePhrases query ∧
        (((untouchedWords (liftedPlaces query) (leftover query)).map String.ofList).filter
          fun term => !Phrase.stopwords.contains term).Sublist (ofQuery query).criteria.terms) := by
  refine ⟨terms_eq_words_liftedPieces query,
    ⟨liftsInPlace_of_liftsExactly, liftsExactly_of_liftsInPlace⟩, ?_⟩
  intro h
  have hterms : (ofQuery query).criteria.terms = wordsOutsidePhrases query := by
    rw [terms_eq_words_liftedPieces, wordsOutsidePhrases,
      (describes_liftedPieces query).words_chars (liftsExactly_of_liftsInPlace h)]
  refine ⟨hterms, ?_⟩
  rw [hterms]
  have huntouched := untouchedWords_sublist (liftedPlaces query) (leftover query)
  exact (huntouched.map String.ofList).filter _

theorem terms_eq_wordsOutsidePhrases_cheapestTv :
    LiftsInPlace "tv under 300 cheapest".toList ∧
      (ofQuery "tv under 300 cheapest".toList).criteria.terms =
        wordsOutsidePhrases "tv under 300 cheapest".toList := by
  have hspans : liftedSpans "tv under 300 cheapest".toList =
      [⟨3, "under 300".toList⟩, ⟨13, "cheapest".toList⟩] := by decide +kernel
  have hleft : leftover "tv under 300 cheapest".toList = "tv under 300 cheapest".toList := by
    decide +kernel
  have hplace : LiftsInPlace "tv under 300 cheapest".toList := by
    constructor
    rw [hspans, hleft]
    decide
  rcases (terms_eq_wordsOutsidePhrases "tv under 300 cheapest".toList).2.2 hplace with
    ⟨hterms, _⟩
  exact ⟨hplace, hterms⟩

/-- The sort word is cut out of another word that only contains it. -/
theorem terms_ne_wordsOutsidePhrases_shotGlassHot :
    (ofQuery "shot glass hot".toList).criteria.terms ≠
      wordsOutsidePhrases "shot glass hot".toList := by
  have hterms : (ofQuery "shot glass hot".toList).criteria.terms = ["s", "glass", "hot"] := by
    decide +kernel
  have hwords : wordsOutsidePhrases "shot glass hot".toList = ["shot", "glass"] := by
    decide +kernel
  rw [hterms, hwords]
  decide

end Reading

end CatalogSearch
