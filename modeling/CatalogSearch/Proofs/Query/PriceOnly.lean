import CatalogSearch.Proofs.Query.CanonicalPrice

/-!
# Queries that are a price

A query that is nothing but a marked price in writing is read as its condition and as nothing
else: the price covers the whole text, so that no words are left to be found.  The description
of a condition that was read in a text is such a query, so that a price is told by its
description.
-/

namespace CatalogSearch

open Text Pattern

/-!
## A pattern that fits a whole text
-/

namespace Pattern

theorem search_of_finds_whole {α : Type} {pattern : Pattern α} {text : List Char} {value : α}
    (h : Finds pattern ⟨[], text⟩ value ⟨text, []⟩) :
    pattern.search text = some ⟨value, [], text, []⟩ := by
  rcases h with ⟨part, hpart, hhit⟩
  rw [List.nil_append] at hpart
  rw [← hpart] at hhit
  cases text with
  | nil =>
      have hfits : pattern none [] = some ⟨value, [], []⟩ := hhit
      rw [search, searchFrom, hfits]
      rfl
  | cons c rest =>
      have hfits : pattern none (c :: rest) = some ⟨value, c :: rest, []⟩ := hhit
      rw [search, searchFrom, hfits]

end Pattern

theorem Place.ReadsPrice.finds {first : Place} {before : List Char} {condition : PricePredicate}
    (h : first.ReadsPrice condition ⟨before, []⟩) :
    Finds priceExpression first condition ⟨before, []⟩ := by
  cases h with
  | range hmarked hsecond => exact finds_priceExpression_range hmarked hsecond
  | comparison hmarked hsingle =>
      have hblanks : Finds blanks ⟨before, []⟩ () ⟨before, []⟩ := ⟨[], by simp, rfl⟩
      exact finds_priceExpression_comparison hmarked hsingle hblanks

/-!
## What is left
-/

theorem Text.blankFirst_self {text : List Char} (h : text ≠ []) : blankFirst text text = [' '] := by
  cases text with
  | nil => exact absurd rfl h
  | cons c rest =>
      have hlead : dropLead? (c :: rest) (c :: rest) = some [] := by
        rw [dropLead?_eq_some, List.append_nil]
      rw [blankFirst, hlead]

namespace Reading

theorem isBlank_cut {α : Type} {text : List Char} (found : Option (Pattern.Match α))
    (h : forall c : Char, c ∈ text -> isBlank c = true) :
    forall c : Char, c ∈ cut text found -> isBlank c = true := by
  intro c hc
  cases found with
  | none => exact h c hc
  | some found =>
      rcases mem_of_mem_blankFirst hc with rfl | hmem
      · exact isBlank_space
      · exact h c hmem

theorem collapse_cuts {text : List Char} {value : PricePredicate} (hne : text ≠ [])
    (h : priceExpression.search text = some ⟨value, [], text, []⟩) :
    collapse ((priceForms text).foldl cut text) = [] := by
  have hfirst : cut text (priceExpression.search text) = [' '] := by
    rw [h]
    exact Text.blankFirst_self hne
  have hspace : forall c : Char, c ∈ [' '] -> isBlank c = true :=
    List.forall_mem_singleton.mpr isBlank_space
  rw [priceForms, List.foldl_cons, hfirst, List.foldl_cons, List.foldl_cons, List.foldl_nil,
    collapse, words_blank (isBlank_cut _ (isBlank_cut _ hspace)), joinWords_nil]

end Reading

/-!
## Readings
-/

namespace WritesAmounts

variable {body : List Char} {condition : PricePredicate} (h : WritesAmounts body condition)

include h

theorem search_whole :
    priceExpression.search ("price:".toList ++ body) =
      some ⟨condition, [], "price:".toList ++ body, []⟩ := by
  have hprice := h.readsPrice [] silentParts_nil.quiet List.not_mem_nil
  rw [List.append_nil, List.nil_append] at hprice
  exact search_of_finds_whole hprice.finds

theorem splitId_price :
    Reading.splitId (strip ("price:".toList ++ body)) = (none, "price:".toList ++ body) := by
  have hsearch : idExpression.search ("price:".toList ++ body) = none := h.labelled.search_drop
  have hcheck : ("price:".toList.all fun c => !isBlank c) = true := by decide
  have hmark : forall c : Char, c ∈ "price:".toList -> isBlank c = false :=
    fun c hc => (Bool.not_eq_true' _).mp (List.all_eq_true.mp hcheck c hc)
  have hsolid : SolidEnds ("price:".toList ++ body) :=
    solidEnds_of_solid (List.forall_mem_append.mpr ⟨hmark, fun c hc => (h.chars.2 c hc).1⟩)
  rw [(solidEnds_iff _).mp hsolid, Reading.splitId, hsearch]
  rfl

theorem ofExpressions_price :
    Reading.ofExpressions ("price:".toList ++ body) =
      { criteria := { price := some condition } } := by
  have hne : "price:".toList ++ body ≠ [] := List.append_ne_nil_of_left_ne_nil (by decide) body
  have hcuts := Reading.collapse_cuts hne h.search_whole
  have hprice : ((Reading.priceForms ("price:".toList ++ body)).findSome? fun form => form).map
      (·.value) = some condition := by
    rw [Reading.priceForms, h.search_whole]
    rfl
  unfold Reading.ofExpressions
  rw [h.splitId_price]
  dsimp only
  rw [hcuts, hprice]
  rfl

theorem ofQuery_price :
    Reading.ofQuery ("price:".toList ++ body) = { criteria := { price := some condition } } := by
  have hphrases : Reading.ofPhrases [] = {} := by decide
  unfold Reading.ofQuery
  rw [h.ofExpressions_price]
  dsimp only
  rw [hphrases]
  rfl

end WritesAmounts

theorem Reading.ofQuery_nil : ofQuery [] = {} := by decide

/-!
## Descriptions
-/

inductive PricePredicate.ReadIn (text : List Char) (condition : PricePredicate) : Prop where
  | expression : (Reading.ofExpressions text).criteria.price = some condition ->
      ReadIn text condition
  | phrase : (Phrase.price? text).map Prod.fst = some condition -> ReadIn text condition

theorem PricePredicate.ReadIn.written {text : List Char} {condition : PricePredicate}
    (h : condition.ReadIn text) : exists body : List Char, Writes body condition := by
  cases h with
  | expression hprice =>
      exact ((Reading.ofExpressions_price_eq_some_iff text condition).mp hprice).written
  | phrase hprice => exact Phrase.written_of_price? hprice

namespace Reading

/-- The description of a price that was read in a text is read as that price and as nothing else:
there is no id in it, and no words are left. -/
theorem ofExpressions_describe {text : List Char} {condition : PricePredicate}
    (h : condition.ReadIn text)
    (hfinite : forall bound : Binary64, bound ∈ condition.bounds -> bound.isFinite = true) :
    ofExpressions condition.describe = { criteria := { price := some condition } } := by
  rcases h.written with ⟨_, hwrites⟩
  rcases hwrites.describe hfinite with ⟨body, hdescribe, hbody⟩
  rw [hdescribe]
  exact hbody.amounts.ofExpressions_price

/-- A range whose bounds come in the other order, and a bound in words. -/
theorem ofExpressions_describe_rangeAndPhrase :
    ((PricePredicate.range (.ofDecimal false 95 (-1)) (.ofNat 20)).ReadIn
          "lamp price:$20 - 9.50".toList ∧
        ofExpressions "price:9.5-20".toList =
          { criteria := { price := some (.range (.ofDecimal false 95 (-1)) (.ofNat 20)) } }) ∧
      (PricePredicate.compare .atMost (.ofDecimal false 1 (-1))).ReadIn
          "tape for less than 0.10".toList ∧
        ofExpressions "price:<=0.1".toList =
          { criteria := { price := some (.compare .atMost (.ofDecimal false 1 (-1))) } } := by
  have hrange : (PricePredicate.range (.ofDecimal false 95 (-1)) (.ofNat 20)).ReadIn
      "lamp price:$20 - 9.50".toList := .expression (by decide +kernel)
  have hphrase : (PricePredicate.compare .atMost (.ofDecimal false 1 (-1))).ReadIn
      "tape for less than 0.10".toList := .phrase (by decide +kernel)
  have hrangeText : (PricePredicate.range (.ofDecimal false 95 (-1)) (.ofNat 20)).describe =
      "price:9.5-20".toList := by decide +kernel
  have hphraseText : (PricePredicate.compare .atMost (.ofDecimal false 1 (-1))).describe =
      "price:<=0.1".toList := by decide +kernel
  rw [← hrangeText, ← hphraseText]
  refine ⟨⟨hrange, ofExpressions_describe hrange ?_⟩, hphrase,
    ofExpressions_describe hphrase ?_⟩
  · exact List.forall_mem_cons.mpr
      ⟨by decide +kernel, List.forall_mem_singleton.mpr (by decide +kernel)⟩
  · exact List.forall_mem_singleton.mpr (by decide +kernel)

end Reading

end CatalogSearch
