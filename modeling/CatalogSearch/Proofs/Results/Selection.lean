import CatalogSearch.Proofs.Results.Criteria
import CatalogSearch.Proofs.Results.Merging
import CatalogSearch.Proofs.Results.Paging

/-!
# What is listed for a query

The list of results is sound and complete: it lists products of the catalog
that meet the query, from either source, it loses no id that either source has
to offer, and it lists no id twice.
-/

namespace CatalogSearch

def DrawsFromCatalog (matcher : Matcher) : Prop :=
  forall text catalog products, matcher text catalog = .candidates products ->
    forall entry, entry ∈ products -> entry.1 ∈ catalog

namespace Refinement

theorem nameAgrees_of_not_asksFor {wanted actual : Option String}
    (h : asksFor wanted = false) : nameAgrees wanted actual = true := by
  cases wanted with
  | none => rfl
  | some wanted =>
      have hempty : wanted = "" := by simpa [asksFor] using h
      simp [nameAgrees, hempty]

theorem holds_of_isEmpty {refinement : Refinement} (h : refinement.isEmpty = true)
    (product : Product) : refinement.holds product = true := by
  have hparts : asksFor refinement.brand = false ∧ asksFor refinement.category = false ∧
      refinement.minPrice.isNone = true ∧ refinement.maxPrice.isNone = true := by
    simpa [isEmpty, and_assoc] using h
  rcases hparts with ⟨hbrand, hcategory, hmin, hmax⟩
  simp [holds, nameAgrees_of_not_asksFor hbrand, nameAgrees_of_not_asksFor hcategory,
    priceAgrees, hmin, hmax]

theorem mem_narrow_iff {refinement : Refinement} {catalog : Catalog} {product : Product} :
    product ∈ refinement.narrow catalog <->
      product ∈ catalog ∧ refinement.holds product = true := by
  unfold narrow
  by_cases hempty : refinement.isEmpty = true
  · simp [hempty, holds_of_isEmpty hempty product]
  · simp [hempty]

end Refinement

namespace Catalog

theorem mem_scored_iff {criteria : Criteria} {catalog : Catalog} {entry : Scored} :
    entry ∈ catalog.scored criteria <->
      entry.product ∈ catalog ∧ criteria.score? entry.product = some entry.score := by
  unfold scored
  rw [List.mem_filterMap]
  constructor
  · intro h
    rcases h with ⟨product, hmem, hscored⟩
    rcases Option.map_eq_some_iff.mp hscored with ⟨score, hscore, rfl⟩
    exact ⟨hmem, hscore⟩
  · intro h
    exact ⟨entry.product, h.1, Option.map_eq_some_iff.mpr ⟨entry.score, h.2, rfl⟩⟩

theorem mem_ranked_iff {catalog : Catalog} {criteria : Criteria} {product : Product} :
    product ∈ catalog.ranked criteria <->
      product ∈ catalog ∧ (criteria.score? product).isSome = true := by
  unfold ranked
  rw [List.mem_map]
  constructor
  · intro h
    rcases h with ⟨entry, hentry, rfl⟩
    rcases mem_scored_iff.mp (List.mem_mergeSort.mp hentry) with ⟨hmem, hscore⟩
    exact ⟨hmem, Option.isSome_of_eq_some hscore⟩
  · intro h
    rcases h with ⟨hmem, hsome⟩
    rcases Option.isSome_iff_exists.mp hsome with ⟨score, hscore⟩
    exact ⟨⟨product, score⟩, List.mem_mergeSort.mpr (mem_scored_iff.mpr ⟨hmem, hscore⟩), rfl⟩

end Catalog

namespace SortKey

theorem sort_perm (key : Option SortKey) (products : List Product) :
    (sort key products).Perm products := by
  cases key with
  | none => exact List.Perm.refl _
  | some key => exact List.mergeSort_perm _ _

end SortKey

namespace Results

/-!
## Candidates

A matcher is asked only by a query without an id and with words to look for.
-/

def returned (matcher : Option Matcher) (reading : Reading) (catalog : Catalog) : List Product :=
  match matcher, matcherText? reading with
  | some matcher, some text =>
    match matcher text catalog with
    | .candidates products => products.map (·.1)
    | _ => []
  | _, _ => []

theorem proposed_value (matcher : Option Matcher) (reading : Reading) (catalog : Catalog) :
    (proposed matcher reading catalog).value =
      (returned matcher reading catalog).filter reading.criteria.admits := by
  unfold proposed returned
  cases matcher with
  | none => rfl
  | some matcher =>
      cases matcherText? reading with
      | none => rfl
      | some text => cases hanswer : matcher text catalog <;> simp [hanswer]

theorem merged_value (matcher : Option Matcher) (reading : Reading) (catalog : Catalog) :
    (merged matcher reading catalog).value =
      Product.merge [catalog.ranked reading.criteria,
        (returned matcher reading catalog).filter reading.criteria.admits] := by
  rw [merged, Reported.map_value, proposed_value]

theorem mem_of_mem_returned {matcher : Option Matcher} {reading : Reading} {catalog : Catalog}
    {product : Product}
    (hmatcher : forall m, matcher = some m -> DrawsFromCatalog m)
    (h : product ∈ returned matcher reading catalog) : product ∈ catalog := by
  unfold returned at h
  cases matcher with
  | none => cases h
  | some matcher =>
      cases htext : matcherText? reading with
      | none => simp [htext] at h
      | some text =>
          cases hanswer : matcher text catalog with
          | candidates products =>
              simp only [htext, hanswer] at h
              rcases List.mem_map.mp h with ⟨entry, hentry, rfl⟩
              exact hmatcher matcher rfl text catalog products hanswer entry hentry
          | nothing => simp [htext, hanswer] at h
          | failed => simp [htext, hanswer] at h

/-!
## The whole list
-/

/-- A list of products that is sound, complete and without repetition for criteria on the
products of a catalog, some of which a matcher returned. -/
structure Selects (criteria : Criteria) (refinement : Refinement) (catalog returned : List Product)
    (listed : List Product) : Prop where
  ids_nodup : (listed.map (·.id)).Nodup
  sound : forall product, product ∈ listed ->
    product ∈ catalog ∧ product.id ≠ "" ∧ refinement.holds product = true ∧
      criteria.MeetsId product ∧ criteria.MeetsPrice product ∧
      (criteria.MeetsTerms product ∨ product ∈ returned)
  scored_listed : forall product, product ∈ catalog -> refinement.holds product = true ->
    (criteria.score? product).isSome = true -> product.id ∈ listed.map (·.id)
  returned_listed : forall product, product ∈ returned -> criteria.admits product = true ->
    product.id ∈ listed.map (·.id)

theorem merged_selects {matcher : Option Matcher} {reading : Reading} {refinement : Refinement}
    {catalog : Catalog} (hmatcher : forall m, matcher = some m -> DrawsFromCatalog m) :
    Selects reading.criteria refinement catalog
      (returned matcher reading (refinement.narrow catalog))
      (merged matcher reading (refinement.narrow catalog)).value := by
  rw [merged_value]
  constructor
  · exact Product.merge_ids_nodup _
  · intro product hmem
    rcases Product.mem_of_mem_merge hmem with ⟨source, hsource, hproduct⟩
    rcases List.mem_cons.mp hsource with rfl | hlast
    · rcases Catalog.mem_ranked_iff.mp hproduct with ⟨hnarrow, hscore⟩
      rcases Refinement.mem_narrow_iff.mp hnarrow with ⟨hcatalog, hholds⟩
      rcases Criteria.score?_isSome_iff.mp hscore with ⟨hid, hmeetsId, hprice, hterms⟩
      exact ⟨hcatalog, hid, hholds, hmeetsId, hprice, Or.inl hterms⟩
    · rw [List.mem_singleton.mp hlast] at hproduct
      rcases List.mem_filter.mp hproduct with ⟨hreturned, hadmits⟩
      rcases Refinement.mem_narrow_iff.mp (mem_of_mem_returned hmatcher hreturned) with
        ⟨hcatalog, hholds⟩
      rcases Criteria.admits_iff.mp hadmits with ⟨hid, hmeetsId, hprice⟩
      exact ⟨hcatalog, hid, hholds, hmeetsId, hprice, Or.inr hreturned⟩
  · intro product hcatalog hholds hscore
    apply Product.id_mem_merge List.mem_cons_self
    exact Catalog.mem_ranked_iff.mpr ⟨Refinement.mem_narrow_iff.mpr ⟨hcatalog, hholds⟩, hscore⟩
  · intro product hreturned hadmits
    apply Product.id_mem_merge (List.mem_cons_of_mem _ List.mem_cons_self)
    exact List.mem_filter.mpr ⟨hreturned, hadmits⟩

theorem Selects.of_perm {criteria : Criteria} {refinement : Refinement}
    {catalog returned listed other : List Product}
    (h : Selects criteria refinement catalog returned listed) (hperm : other.Perm listed) :
    Selects criteria refinement catalog returned other := by
  have hids : (other.map (·.id)).Perm (listed.map (·.id)) := hperm.map _
  constructor
  · exact hids.nodup_iff.mpr h.ids_nodup
  · intro product hmem
    exact h.sound product (hperm.mem_iff.mp hmem)
  · intro product hcatalog hholds hscore
    exact hids.mem_iff.mpr (h.scored_listed product hcatalog hholds hscore)
  · intro product hreturned hadmits
    exact hids.mem_iff.mpr (h.returned_listed product hreturned hadmits)

/-- The results of a query are the products that meet it, each id once. -/
theorem products_selects (catalog : Catalog) (query : List Char) (sort : Json)
    (options : SearchOptions)
    (hmatcher : forall m, options.matcher = some m -> DrawsFromCatalog m) :
    Selects (Reading.ofQuery query).criteria options.refinement catalog
      (returned options.matcher (Reading.ofQuery query) (options.refinement.narrow catalog))
      (ofRequest catalog query sort options).value.products :=
  (merged_selects hmatcher).of_perm (SortKey.sort_perm _ _)

/-- All pages of a query together list the products that meet it, each id once. -/
theorem listed_selects (catalog : Catalog) (query : List Char) (sort : Json)
    (options : SearchOptions) (size : Int)
    (hmatcher : forall m, options.matcher = some m -> DrawsFromCatalog m) :
    Selects (Reading.ofQuery query).criteria options.refinement catalog
      (returned options.matcher (Reading.ofQuery query) (options.refinement.narrow catalog))
      ((ofRequest catalog query sort options).value.listed size) := by
  rw [listed_eq_products]
  exact products_selects catalog query sort options hmatcher

def proposeAll : Matcher := fun _ catalog =>
  .candidates (catalog.map fun product => (product, .zero))

theorem proposeAll_drawsFromCatalog : DrawsFromCatalog proposeAll := by
  intro text catalog products hanswer entry hentry
  cases hanswer
  rcases List.mem_map.mp hentry with ⟨product, hmem, rfl⟩
  exact hmem

def lampShelf : Catalog :=
  [{ id := "1", name := "Lamp", brand := some "lux" },
    { id := "1", name := "Desk lamp", price := some (.ofNat 30), brand := some "Lux" },
    { id := "", name := "Lamp", price := some (.ofNat 20), brand := some "Lux" }]

def luxOptions : SearchOptions :=
  { matcher := some proposeAll, refinement := { brand := some "Lux" } }

theorem listed_selects_lampShelf :
    (forall m, luxOptions.matcher = some m -> DrawsFromCatalog m) ∧
      Selects (Reading.ofQuery "lamp price:<=40".toList).criteria luxOptions.refinement lampShelf
        (returned luxOptions.matcher (Reading.ofQuery "lamp price:<=40".toList)
          (luxOptions.refinement.narrow lampShelf))
        ((ofRequest lampShelf "lamp price:<=40".toList (.string "name") luxOptions).value.listed
          1) := by
  have hmatcher : forall m, luxOptions.matcher = some m -> DrawsFromCatalog m := by
    intro m hm
    rw [← Option.some.inj hm]
    exact proposeAll_drawsFromCatalog
  exact ⟨hmatcher, listed_selects lampShelf "lamp price:<=40".toList (.string "name") luxOptions 1
    hmatcher⟩

end Results

end CatalogSearch
