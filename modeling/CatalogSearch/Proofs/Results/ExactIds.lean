import CatalogSearch.Proofs.Query.RequiredTerms
import CatalogSearch.Proofs.Results.Candidates
import CatalogSearch.Proofs.Results.RankOrder
import CatalogSearch.Proofs.Results.Scores

/-!
# Exact ids first

An id that is the one asked for is worth five hundred points more than one that
contains it, and a term up to five points more in one product than in another.
So the product with the id comes first as long as fewer than a hundred terms are
to be found, and from a hundred terms on some catalog shows another before it.
-/

namespace CatalogSearch

open Text

/-- Products in which none with another id stands before one with the wanted id. -/
def ExactFirst (wanted : String) (products : List Product) : Prop :=
  products.Pairwise fun a b => b.id = wanted -> a.id = wanted

namespace Catalog

/-!
## Few terms
-/

theorem ranked_exactFirst {criteria : Criteria} {wanted : String}
    (hid : criteria.id = some wanted) (hfew : criteria.terms.length < 100) (catalog : Catalog) :
    ExactFirst wanted (catalog.ranked criteria) := by
  apply List.pairwise_map.mpr
  apply (scores_descend criteria catalog).imp_of_mem
  intro a b ha hb hle hsame
  have hascore := (mem_scored_iff.mp (List.mem_mergeSort.mp ha)).2
  have hbscore := (mem_scored_iff.mp (List.mem_mergeSort.mp hb)).2
  apply Classical.byContradiction
  intro hother
  have hlow := Criteria.score?_of_other hid hascore hother
  have hhigh := Criteria.score?_of_same hid hbscore hsame
  omega

theorem mergeSort_pair {first second : Scored} (h : Scored.ranksBefore first second = false) :
    [first, second].mergeSort Scored.ranksBefore = [second, first] := by
  simp [List.mergeSort, List.MergeSort.Internal.splitInTwo, h]

theorem ranked_eq_nil {criteria : Criteria}
    (hprice : forall product, ¬ criteria.MeetsPrice product) (catalog : Catalog) :
    catalog.ranked criteria = [] := by
  apply List.eq_nil_iff_forall_not_mem.mpr
  intro product hmem
  have hscore := (mem_ranked_iff.mp hmem).2
  exact hprice product (Criteria.score?_isSome_iff.mp hscore).2.2.1

end Catalog

/-!
## Many terms

Of two products one has the wanted id and the terms in its description, the
other contains the id and has the terms in its name as well.  The names begin
with blanks that decide between equal scores.
-/

def describedBy (id : String) (terms : List String) (price : Option Binary64) : Product where
  id := id
  name := String.ofList [' ']
  description := String.ofList (joinWords (terms.map String.toList))
  price := price

def namedBy (id : String) (terms : List String) (price : Option Binary64) : Product where
  id := id ++ "-"
  name := String.ofList ('\t' :: joinWords (terms.map String.toList))
  description := String.ofList (joinWords (terms.map String.toList))
  price := price

theorem append_hyphen_ne (id : String) :
    id ++ "-" ≠ id := by
  intro h
  have hlength := congrArg String.length h
  rw [String.length_append] at hlength
  exact absurd hlength (Nat.ne_of_gt (Nat.lt_succ_self _))

theorem append_hyphen_ne_empty (id : String) :
    id ++ "-" ≠ "" := by
  intro h
  have hlength := congrArg String.length h
  rw [String.length_append] at hlength
  exact absurd hlength (Nat.succ_ne_zero _)

theorem infix_joinWords {word : List Char} {list : List (List Char)} (h : word ∈ list) :
    word <:+: joinWords list := by
  induction list with
  | nil => cases h
  | cons first rest ih =>
      cases rest with
      | nil =>
          rw [List.mem_singleton.mp h]
          exact List.infix_refl _
      | cons next rest =>
          rw [joinWords_cons_cons]
          rcases List.mem_cons.mp h with heq | hrest
          · rw [heq]
            exact List.infix_append' [] first _
          · exact (ih hrest).trans ⟨first ++ [' '], [], by simp⟩

theorem lower_joinWords_terms {terms : List String}
    (h : forall term, term ∈ terms -> IsLowerWord term.toList) :
    lower (joinWords (terms.map String.toList)) = joinWords (terms.map String.toList) := by
  rw [lower_joinWords]
  congr 1
  rw [List.map_map]
  apply List.map_congr_left
  intro term hmem
  exact (h term hmem).lower_eq

theorem occursIn_joinWords {term : String} {terms : List String} (h : term ∈ terms) :
    occursIn term.toList (joinWords (terms.map String.toList)) = true :=
  occursIn_iff_isInfix.mpr (infix_joinWords (List.mem_map_of_mem h))

theorem not_occursIn_space {word : List Char} (h : IsWord word) :
    occursIn word [' '] = false := by
  rw [Bool.eq_false_iff]
  intro hoccurs
  rcases List.exists_mem_of_ne_nil word h.ne_nil with ⟨c, hc⟩
  have hspace : c = ' ' :=
    List.mem_singleton.mp ((occursIn_iff_isInfix.mp hoccurs).subset hc)
  have hsolid := h.solid c hc
  rw [hspace, isBlank_space] at hsolid
  cases hsolid

section Terms

variable {criteria : Criteria} {wanted : String} {price : Option Binary64}
  (hid : criteria.id = some wanted)
  (hterms : forall term, term ∈ criteria.terms -> IsLowerWord term.toList)

include hid hterms

theorem score?_describedBy (hne : wanted ≠ "")
    (hprice : criteria.MeetsPrice (describedBy wanted criteria.terms price)) :
    criteria.score? (describedBy wanted criteria.terms price) =
      some (1000 + 3 * criteria.terms.length) := by
  have hname : lower (describedBy wanted criteria.terms price).name.toList = [' '] := by
    rw [describedBy, String.toList_ofList]
    decide
  have hdescription : lower (describedBy wanted criteria.terms price).description.toList =
      joinWords (criteria.terms.map String.toList) := by
    rw [describedBy, String.toList_ofList, lower_joinWords_terms hterms]
  apply Criteria.score?_eq_some.mpr
  refine ⟨hne, Criteria.admitsPrice_iff.mpr hprice, 1000, 3 * criteria.terms.length,
    Criteria.idPoints?_of_same hid rfl, ?_, rfl⟩
  rw [hname, hdescription, ← List.length_map String.toList]
  apply Criteria.termsPoints?_of_forall
  intro word hmem
  rcases List.mem_map.mp hmem with ⟨term, hterm, rfl⟩
  rw [Criteria.termPoints?, occursIn_joinWords hterm,
    not_occursIn_space (hterms term hterm).isWord]
  rfl

theorem score?_namedBy
    (hprice : criteria.MeetsPrice (namedBy wanted criteria.terms price)) :
    criteria.score? (namedBy wanted criteria.terms price) =
      some (500 + 8 * criteria.terms.length) := by
  have hname : lower (namedBy wanted criteria.terms price).name.toList =
      '\t' :: joinWords (criteria.terms.map String.toList) := by
    have hblank : isBlank '\t' = true := by decide
    have hlower := lower_append_blank [] (joinWords (criteria.terms.map String.toList)) hblank
    rw [namedBy, String.toList_ofList]
    rw [lower_joinWords_terms hterms] at hlower
    exact hlower
  have hdescription : lower (namedBy wanted criteria.terms price).description.toList =
      joinWords (criteria.terms.map String.toList) := by
    rw [namedBy, String.toList_ofList, lower_joinWords_terms hterms]
  have hpart : wanted.toList <:+: (namedBy wanted criteria.terms price).id.toList := by
    rw [namedBy, String.toList_append]
    exact List.infix_append' [] _ _
  apply Criteria.score?_eq_some.mpr
  refine ⟨append_hyphen_ne_empty wanted, Criteria.admitsPrice_iff.mpr hprice, 500,
    8 * criteria.terms.length,
    Criteria.idPoints?_of_part hid (append_hyphen_ne wanted) hpart, ?_, rfl⟩
  rw [hname, hdescription, ← List.length_map String.toList]
  apply Criteria.termsPoints?_of_forall
  intro word hmem
  rcases List.mem_map.mp hmem with ⟨term, hterm, rfl⟩
  have hin := occursIn_joinWords hterm
  rw [Criteria.termPoints?, hin, occursIn, hin, Bool.or_true]
  rfl

/-- From a hundred terms on the product with the longer id is ranked first. -/
theorem ranked_namedBy_describedBy (hne : wanted ≠ "") (hmany : 100 ≤ criteria.terms.length)
    (hprice : criteria.MeetsPrice (describedBy wanted criteria.terms price)) :
    Catalog.ranked criteria
        [describedBy wanted criteria.terms price, namedBy wanted criteria.terms price] =
      [namedBy wanted criteria.terms price, describedBy wanted criteria.terms price] := by
  have hscored : Catalog.scored criteria
        [describedBy wanted criteria.terms price, namedBy wanted criteria.terms price] =
      [⟨describedBy wanted criteria.terms price, 1000 + 3 * criteria.terms.length⟩,
        ⟨namedBy wanted criteria.terms price, 500 + 8 * criteria.terms.length⟩] := by
    unfold Catalog.scored
    simp only [List.filterMap_cons, List.filterMap_nil, score?_describedBy hid hterms hne hprice,
      score?_namedBy hid hterms hprice, Option.map_some]
  have hbehind : Scored.ranksBefore
      ⟨describedBy wanted criteria.terms price, 1000 + 3 * criteria.terms.length⟩
      ⟨namedBy wanted criteria.terms price, 500 + 8 * criteria.terms.length⟩ = false := by
    rw [Bool.eq_false_iff, ne_eq, Scored.ranksBefore_iff]
    intro h
    rcases h with hlt | ⟨_, hsamePrice, hname⟩
    · simp only at hlt
      omega
    · apply String.not_le.mpr _ (hname hsamePrice)
      rw [namedBy, describedBy, String.lt_iff, String.toList_ofList, String.toList_ofList]
      have htab : '\t' < ' ' := by decide
      exact List.cons_lt_cons_iff.mpr (Or.inl htab)
  rw [Catalog.ranked, hscored, Catalog.mergeSort_pair hbehind]
  rfl

end Terms

namespace Results

/-!
## Results of a query with an id
-/

theorem ofRequest_products_of_id {catalog : Catalog} {query : List Char} {sort : Json}
    {options : SearchOptions} (hid : (Reading.ofQuery query).criteria.id.isSome = true)
    (horder : orderInEffect (SortKey.request sort).value options.applySortIntent
      (Reading.ofQuery query) = none) :
    (ofRequest catalog query sort options).value.products =
      Product.distinct
        (Catalog.ranked (Reading.ofQuery query).criteria (options.refinement.narrow catalog)) := by
  rw [ofRequest_products_of_relevance horder, ← proposed_value, proposed_of_id hid,
    ← Product.merge_pair_nil]

/-- Whatever the catalog is, the product with the wanted id comes before the others, exactly if
fewer than a hundred terms are to be found or the condition on the price cannot be met. -/
theorem exactFirst_iff {query : List Char} {wanted : String}
    (hid : (Reading.ofQuery query).criteria.id = some wanted) :
    (forall (catalog : Catalog) (sort : Json) (options : SearchOptions),
      orderInEffect (SortKey.request sort).value options.applySortIntent
          (Reading.ofQuery query) = none ->
        ExactFirst wanted (ofRequest catalog query sort options).value.products) <->
      (Reading.ofQuery query).criteria.terms.length < 100 ∨
        forall product, ¬ (Reading.ofQuery query).criteria.MeetsPrice product := by
  have hsome := Option.isSome_of_eq_some hid
  constructor
  · intro hfirst
    apply Classical.byContradiction
    intro hneither
    rcases not_or.mp hneither with ⟨hmany, hmet⟩
    rcases Classical.not_forall.mp hmet with ⟨product, hproduct⟩
    have hprice := Classical.not_not.mp hproduct
    have horder : orderInEffect (SortKey.request .null).value false (Reading.ofQuery query) =
        none := rfl
    have hterms := fun term => @Reading.isLowerWord_of_mem_terms query term
    have hpair := hfirst
      [describedBy wanted (Reading.ofQuery query).criteria.terms product.price,
        namedBy wanted (Reading.ofQuery query).criteria.terms product.price]
      .null { applySortIntent := false } horder
    rw [ofRequest_products_of_id hsome horder] at hpair
    have hnarrow : forall catalog : Catalog,
        ({ applySortIntent := false } : SearchOptions).refinement.narrow catalog = catalog :=
      fun _ => rfl
    rw [hnarrow, ranked_namedBy_describedBy hid hterms (Reading.id_ne_empty hid)
      (Nat.le_of_not_lt hmany) hprice, Product.distinct_pair (append_hyphen_ne wanted)] at hpair
    have hbefore := (List.pairwise_cons.mp hpair).1 _ (List.mem_singleton.mpr rfl)
    exact append_hyphen_ne wanted (hbefore rfl)
  · intro hbound catalog sort options horder
    rw [ofRequest_products_of_id hsome horder]
    rcases hbound with hfew | hprice
    · exact (Catalog.ranked_exactFirst hid hfew _).sublist (Product.distinctAfter_sublist [] _)
    · rw [Catalog.ranked_eq_nil hprice]
      exact List.Pairwise.nil

theorem exactFirst_iff_deskLamp :
    (Reading.ofQuery "id:1 desk lamp price:<=40".toList).criteria.id = some "1" ∧
      (Reading.ofQuery "id:1 desk lamp price:<=40".toList).criteria.terms.length < 100 ∧
      forall (catalog : Catalog) (sort : Json) (options : SearchOptions),
        orderInEffect (SortKey.request sort).value options.applySortIntent
            (Reading.ofQuery "id:1 desk lamp price:<=40".toList) = none ->
          ExactFirst "1"
            (ofRequest catalog "id:1 desk lamp price:<=40".toList sort options).value.products := by
  have hid : (Reading.ofQuery "id:1 desk lamp price:<=40".toList).criteria.id = some "1" := by
    decide +kernel
  have hfew : (Reading.ofQuery "id:1 desk lamp price:<=40".toList).criteria.terms.length < 100 := by
    decide +kernel
  exact ⟨hid, hfew, (exactFirst_iff hid).mpr (Or.inl hfew)⟩

def insistentQuery : List Char :=
  "id:a".toList ++ (List.replicate 101 " x".toList).flatten

def wantedProduct : Product := { id := "a", name := "Lamp", description := "x" }

def insistedProduct : Product := { id := "ab", name := "x", description := "x" }

/-- Enough words bring a product that only contains the id before the one that has it. -/
theorem not_exactFirst_insistentQuery :
    (Reading.ofQuery insistentQuery).criteria.id = some "a" ∧
      orderInEffect (SortKey.request .null).value ({} : SearchOptions).applySortIntent
        (Reading.ofQuery insistentQuery) = none ∧
      ¬ ExactFirst "a"
        (ofRequest [wantedProduct, insistedProduct] insistentQuery .null {}).value.products := by
  have hid : (Reading.ofQuery insistentQuery).criteria.id = some "a" := by decide
  have horder : orderInEffect (SortKey.request .null).value ({} : SearchOptions).applySortIntent
      (Reading.ofQuery insistentQuery) = none := by decide +kernel
  have hscored : Catalog.scored (Reading.ofQuery insistentQuery).criteria
      [wantedProduct, insistedProduct] = [⟨wantedProduct, 1303⟩, ⟨insistedProduct, 1308⟩] := by
    decide +kernel
  have hbehind : Scored.ranksBefore ⟨wantedProduct, 1303⟩ ⟨insistedProduct, 1308⟩ = false := by
    decide
  have hids : insistedProduct.id ≠ wantedProduct.id := by decide
  have hproducts : (ofRequest [wantedProduct, insistedProduct] insistentQuery .null
      {}).value.products = [insistedProduct, wantedProduct] := by
    have hnarrow : forall catalog : Catalog,
        ({} : SearchOptions).refinement.narrow catalog = catalog := fun _ => rfl
    rw [ofRequest_products_of_id (Option.isSome_of_eq_some hid) horder, hnarrow, Catalog.ranked,
      hscored, Catalog.mergeSort_pair hbehind, ← Product.distinct_pair hids]
    rfl
  refine ⟨hid, horder, ?_⟩
  rw [hproducts]
  intro hfirst
  have hbefore := (List.pairwise_cons.mp hfirst).1 wantedProduct (List.mem_singleton.mpr rfl)
  exact hids (hbefore rfl)

end Results

end CatalogSearch
