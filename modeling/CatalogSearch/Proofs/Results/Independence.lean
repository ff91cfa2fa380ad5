import CatalogSearch.Proofs.Results.Selection
import CatalogSearch.Proofs.Results.StableSort
import Mathlib.Data.List.Nodup

/-!
# Products without influence on each other

Every stage of an evaluation looks at one product at a time or compares two:
none depends on which others there are, as long as no two share an id.  The
results for some products of a catalog are therefore those of them that are
among the results for all.
-/

namespace CatalogSearch

theorem Refinement.narrow_eq_filter (refinement : Refinement) (catalog : Catalog) :
    refinement.narrow catalog = catalog.filter refinement.holds := by
  unfold narrow
  split
  · rename_i hempty
    exact (List.filter_eq_self.mpr fun product _ => holds_of_isEmpty hempty product).symm
  · rfl

theorem Refinement.narrow_filter (refinement : Refinement) (catalog : Catalog)
    (keep : Product -> Bool) :
    refinement.narrow (catalog.filter keep) = (refinement.narrow catalog).filter keep := by
  rw [narrow_eq_filter, narrow_eq_filter, List.filter_comm]

/-!
## Exact results
-/

namespace Catalog

theorem scored_filter (criteria : Criteria) (catalog : Catalog) (keep : Product -> Bool) :
    scored criteria (catalog.filter keep) =
      (scored criteria catalog).filter fun entry => keep entry.product := by
  unfold scored
  rw [List.filterMap_filter, List.filter_filterMap]
  apply List.filterMap_congr
  intro product _
  cases hkeep : keep product <;> cases criteria.score? product <;> simp [Option.filter, hkeep]

theorem ranked_filter (criteria : Criteria) (catalog : Catalog) (keep : Product -> Bool) :
    ranked criteria (catalog.filter keep) = (ranked criteria catalog).filter keep := by
  unfold ranked
  rw [scored_filter, ← Scored.ranksBefore_totalPreorder.filter_mergeSort, List.filter_map]
  rfl

end Catalog

/-!
## Candidates
-/

namespace Fuzzy

variable {measure : Likeness} {threshold : Binary64} {query : List Char} {catalog : Catalog}

theorem isNearer_totalPreorder : TotalPreorder isNearer :=
  placeLe_totalPreorder.flip.comap Prod.snd

theorem near_filter (threshold : Binary64) (scored : List (Product × Binary64))
    (keep : Product × Binary64 -> Bool) :
    near threshold (scored.filter keep) = (near threshold scored).filter keep := by
  unfold near
  rw [isNearer_totalPreorder.filter_mergeSort, List.filter_comm]

theorem searchBy_filter (normalize : List Char -> List Char) (measure : Likeness)
    (threshold : Binary64) (query : List Char) (catalog : Catalog) (keep : Product -> Bool) :
    searchBy normalize measure threshold query (catalog.filter keep) =
      (searchBy normalize measure threshold query catalog).filter fun entry => keep entry.1 := by
  unfold searchBy
  simp only
  split
  · rfl
  · rw [← near_filter, List.filter_map]
    rfl

theorem mem_of_mem_searchBy {normalize : List Char -> List Char} {entry : Product × Binary64}
    (h : entry ∈ searchBy normalize measure threshold query catalog) : entry.1 ∈ catalog := by
  unfold searchBy near at h
  simp only at h
  split at h
  · cases h
  · have hscored := (List.mem_filter.mp (List.mem_mergeSort.mp h)).1
    rcases List.mem_map.mp hscored with ⟨product, hmem, rfl⟩
    exact hmem

theorem matcherBy_drawsFromCatalog (normalize : List Char -> List Char) (measure : Likeness)
    (threshold : Binary64) : DrawsFromCatalog (matcherBy normalize measure threshold) := by
  intro text catalog products hanswer entry hentry
  cases hanswer
  exact mem_of_mem_searchBy hentry

end Fuzzy

namespace Results

section

variable (normalize : List Char -> List Char) (measure : Likeness) (threshold : Option Binary64)

theorem proposed_filter (reading : Reading) (catalog : Catalog) (keep : Product -> Bool) :
    proposed (threshold.map (Fuzzy.matcherBy normalize measure)) reading (catalog.filter keep) =
      (proposed (threshold.map (Fuzzy.matcherBy normalize measure)) reading catalog).map
        (·.filter keep) := by
  unfold proposed
  cases threshold with
  | none => rfl
  | some threshold =>
      cases matcherText? reading with
      | none => rfl
      | some text =>
          have hproducts :
              ((Fuzzy.searchBy normalize measure threshold text catalog).filter
                  fun entry => keep entry.1).map (·.1) =
                ((Fuzzy.searchBy normalize measure threshold text catalog).map (·.1)).filter keep :=
            List.filter_map.symm
          simp only [Option.map_some, Fuzzy.matcherBy, Reported.map, Fuzzy.searchBy_filter,
            hproducts]
          rw [List.filter_comm]

theorem mem_of_mem_proposed {reading : Reading} {catalog : Catalog} {product : Product}
    (h : product ∈
      (proposed (threshold.map (Fuzzy.matcherBy normalize measure)) reading catalog).value) :
    product ∈ catalog := by
  rw [proposed_value] at h
  apply mem_of_mem_returned _ (List.mem_filter.mp h).1
  intro matcher hmatcher
  rcases Option.map_eq_some_iff.mp hmatcher with ⟨limit, _, rfl⟩
  exact Fuzzy.matcherBy_drawsFromCatalog normalize measure limit

end

end Results

/-!
## Merged sources

An id stands for one product here, so that to leave a product out is to leave
its id out.
-/

namespace Product

theorem distinctAfter_unseen {id : String} {seen : List String} {products : List Product}
    (h : id ∉ products.map (·.id)) :
    distinctAfter (id :: seen) products = distinctAfter seen products := by
  induction products generalizing seen with
  | nil => rfl
  | cons product rest ih =>
      rw [List.map_cons, List.mem_cons, not_or] at h
      rcases h with ⟨hfirst, hrest⟩
      by_cases hseen : product.id ∈ seen
      · rw [distinctAfter_cons_seen hseen, distinctAfter_cons_seen (List.mem_cons_of_mem _ hseen)]
        exact ih hrest
      · have hnew : product.id ∉ id :: seen := by
          intro hmem
          rcases List.mem_cons.mp hmem with heq | hbefore
          · exact hfirst heq.symm
          · exact hseen hbefore
        rw [distinctAfter_cons_new hseen, distinctAfter_cons_new hnew]
        congr 1
        refine (distinctAfter_congr ?_ rest).trans (ih hrest)
        intro other
        rw [List.mem_cons, List.mem_cons, List.mem_cons, List.mem_cons]
        exact or_left_comm

theorem distinctAfter_filter {keep : Product -> Bool} {products : List Product}
    (h : forall a, a ∈ products -> forall b, b ∈ products -> a.id = b.id -> keep a = keep b)
    (seen : List String) :
    distinctAfter seen (products.filter keep) = (distinctAfter seen products).filter keep := by
  induction products generalizing seen with
  | nil => rfl
  | cons product rest ih =>
      have hrest : forall a, a ∈ rest -> forall b, b ∈ rest -> a.id = b.id -> keep a = keep b :=
        fun a ha b hb => h a (List.mem_cons_of_mem _ ha) b (List.mem_cons_of_mem _ hb)
      by_cases hseen : product.id ∈ seen
      · rw [distinctAfter_cons_seen hseen, ← ih hrest, List.filter_cons]
        split
        · exact distinctAfter_cons_seen hseen _
        · rfl
      · rw [distinctAfter_cons_new hseen, List.filter_cons, List.filter_cons, ← ih hrest]
        split
        · exact distinctAfter_cons_new hseen _
        · rename_i hkeep
          rw [distinctAfter_unseen]
          intro hmem
          rcases List.mem_map.mp hmem with ⟨other, hother, hid⟩
          rcases List.mem_filter.mp hother with ⟨hlater, hkept⟩
          rw [h other (List.mem_cons_of_mem _ hlater) product List.mem_cons_self hid] at hkept
          exact hkeep hkept

theorem merge_filter {keep : Product -> Bool} {sources : List (List Product)}
    (h : forall a, a ∈ sources.flatten -> forall b, b ∈ sources.flatten ->
      a.id = b.id -> keep a = keep b) :
    merge (sources.map (·.filter keep)) = (merge sources).filter keep := by
  unfold merge distinct
  rw [← distinctAfter_filter h, List.filter_flatten]

theorem eq_of_id_eq {catalog : Catalog} (hids : (catalog.map (·.id)).Nodup) {a b : Product}
    (ha : a ∈ catalog) (hb : b ∈ catalog) (h : a.id = b.id) : a = b :=
  List.inj_on_of_nodup_map hids ha hb h

end Product

/-!
## Whole results
-/

namespace Results

def filter (results : Results) (keep : Product -> Bool) : Results :=
  { results with products := results.products.filter keep }

variable {catalog : Catalog}

section

variable (normalize : List Char -> List Char) (measure : Likeness) (threshold : Option Binary64)

theorem merged_filter (hids : (catalog.map (·.id)).Nodup) (reading : Reading)
    (keep : Product -> Bool) :
    merged (threshold.map (Fuzzy.matcherBy normalize measure)) reading (catalog.filter keep) =
      (merged (threshold.map (Fuzzy.matcherBy normalize measure)) reading catalog).map
        (·.filter keep) := by
  have hcatalog : forall product, product ∈ [catalog.ranked reading.criteria,
      (proposed (threshold.map (Fuzzy.matcherBy normalize measure)) reading
        catalog).value].flatten -> product ∈ catalog := by
    intro product hmem
    rw [List.flatten_cons, List.flatten_singleton, List.mem_append] at hmem
    rcases hmem with hranked | hproposed
    · exact (Catalog.mem_ranked_iff.mp hranked).1
    · exact mem_of_mem_proposed normalize measure threshold hproposed
  have hsources := Product.merge_filter fun a ha b hb hid => congrArg keep
    (Product.eq_of_id_eq hids (hcatalog a ha) (hcatalog b hb) hid)
  unfold merged
  rw [proposed_filter, Catalog.ranked_filter]
  simp only [Reported.map, Reported.mk.injEq, and_true]
  exact hsources

theorem ofRequest_filter {options : SearchOptions} (hids : (catalog.map (·.id)).Nodup)
    (hmatcher : options.matcher = threshold.map (Fuzzy.matcherBy normalize measure))
    (query : List Char) (sort : Json) (keep : Product -> Bool) :
    ofRequest (catalog.filter keep) query sort options =
      (ofRequest catalog query sort options).map (·.filter keep) := by
  have hnarrowed : ((options.refinement.narrow catalog).map (·.id)).Nodup := by
    rw [options.refinement.narrow_eq_filter]
    exact hids.sublist (List.filter_sublist.map _)
  have hmerged :=
    merged_filter normalize measure threshold hnarrowed (Reading.ofQuery query) keep
  unfold ofRequest ofQuery
  simp only
  rw [hmatcher, options.refinement.narrow_filter, hmerged]
  simp only [Reported.map, filter, SortKey.filter_sort]

end

/-- In a catalog without a product, what comes for another is what comes in the whole catalog. -/
theorem eq_filter_of_split {front back : List Product} {product : Product}
    (hids : ((front ++ product :: back).map (·.id)).Nodup) :
    front ++ back = (front ++ product :: back).filter (· != product) := by
  have hnodup := List.Nodup.of_map _ hids
  rcases List.nodup_append.mp hnodup with ⟨_, hback, hapart⟩
  have hfront : front.filter (· != product) = front := by
    rw [List.filter_eq_self]
    intro other hmem
    exact bne_iff_ne.mpr (hapart other hmem product List.mem_cons_self)
  have hrest : back.filter (· != product) = back := by
    rw [List.filter_eq_self]
    intro other hmem
    refine bne_iff_ne.mpr ?_
    rintro rfl
    exact (List.nodup_cons.mp hback).1 hmem
  rw [List.filter_append, hfront, List.filter_cons_of_neg (by simp), hrest]

/-- Products do not influence each other, without a matcher or with one of any normal form,
measure and threshold: the results for some products of a catalog are those of them among all
results, so that a refinement may come after the search and one more product leaves the others in
their order. -/
theorem ofRequest_independent (normalize : List Char -> List Char) (measure : Likeness)
    (threshold : Option Binary64) {options : SearchOptions} (hids : (catalog.map (·.id)).Nodup)
    (hmatcher : options.matcher = threshold.map (Fuzzy.matcherBy normalize measure))
    (query : List Char) (sort : Json) :
    (forall keep : Product -> Bool,
      ofRequest (catalog.filter keep) query sort options =
        (ofRequest catalog query sort options).map (·.filter keep)) ∧
      ofRequest catalog query sort options =
        (ofRequest catalog query sort { options with refinement := {} }).map
          (·.filter options.refinement.holds) ∧
      (forall front product back, catalog = front ++ product :: back ->
        ofRequest (front ++ back) query sort options =
          (ofRequest catalog query sort options).map (·.filter (· != product))) := by
  refine ⟨ofRequest_filter normalize measure threshold hids hmatcher query sort, ?_, ?_⟩
  · have hfree : ({ options with refinement := {} } : SearchOptions).matcher =
        threshold.map (Fuzzy.matcherBy normalize measure) := hmatcher
    rw [← ofRequest_filter normalize measure threshold hids hfree]
    unfold ofRequest ofQuery
    simp only [options.refinement.narrow_eq_filter]
    rfl
  · rintro front product back rfl
    rw [eq_filter_of_split hids]
    exact ofRequest_filter normalize measure threshold hids hmatcher query sort _

def lampsAndShelf : Catalog :=
  [{ id := "1", name := "Desk lamp", price := some (.ofNat 30), brand := some "Lux" },
    { id := "2", name := "Desk lmap", price := some (.ofNat 30) },
    { id := "3", name := "Shelf", price := some (.ofNat 20), brand := some "Lux" }]

def half : Binary64 := .ofDecimal false 5 (-1)

def halfAlikeOptions : SearchOptions :=
  { matcher := some (Fuzzy.matcher half), refinement := { brand := some "Lux" } }

theorem ofRequest_independent_lampsAndShelf :
    (lampsAndShelf.map (·.id)).Nodup ∧
      halfAlikeOptions.matcher =
        (some half).map (Fuzzy.matcherBy Text.normalize Fuzzy.spellingOrSound) ∧
      (forall keep : Product -> Bool,
        ofRequest (lampsAndShelf.filter keep) "cheap desk lamp".toList .null halfAlikeOptions =
          (ofRequest lampsAndShelf "cheap desk lamp".toList .null halfAlikeOptions).map
            (·.filter keep)) := by
  have hids : (lampsAndShelf.map (·.id)).Nodup := by decide
  have hmatcher : halfAlikeOptions.matcher =
      (some half).map (Fuzzy.matcherBy Text.normalize Fuzzy.spellingOrSound) := rfl
  exact ⟨hids, hmatcher, (ofRequest_independent Text.normalize Fuzzy.spellingOrSound (some half)
    hids hmatcher "cheap desk lamp".toList .null).1⟩

end Results

end CatalogSearch
