import CatalogSearch.Proofs.Number.Differences
import CatalogSearch.Proofs.Results.Candidates
import CatalogSearch.Proofs.Results.FirstOfEachId
import CatalogSearch.Proofs.Results.Independence

/-!
# Wider thresholds

Candidates are the products of a catalog that are near enough, nearest first and equally near
ones in catalog order.  A product that is near enough leaves no nearer one out, so what a wider
threshold lets in stands behind the candidates of a narrower one, and behind the results that
rest on them.
-/

namespace CatalogSearch

/-!
## Fronts of lists
-/

/-- Elements that are never kept without those before them are the front of the list. -/
theorem filter_isPrefix {α : Type} {keep : α -> Bool} {items : List α}
    (h : items.Pairwise fun a b => keep b = true -> keep a = true) :
    items.filter keep <+: items := by
  induction items with
  | nil => exact List.prefix_rfl
  | cons first rest ih =>
      rcases List.pairwise_cons.mp h with ⟨hfirst, hrest⟩
      cases hkeep : keep first with
      | true =>
          rw [List.filter_cons_of_pos hkeep, List.cons_prefix_cons]
          exact ⟨rfl, ih hrest⟩
      | false =>
          have hnone : (first :: rest).filter keep = [] := by
            refine List.filter_eq_nil_iff.mpr (List.forall_mem_cons.mpr ⟨by simp [hkeep], ?_⟩)
            intro other hmem hother
            rw [hfirst other hmem hother] at hkeep
            cases hkeep
          rw [hnone]
          exact List.nil_prefix

namespace Product

theorem distinctAfter_isPrefix {front whole : List Product} (h : front <+: whole)
    (seen : List String) : distinctAfter seen front <+: distinctAfter seen whole := by
  rcases h with ⟨back, rfl⟩
  rw [distinctAfter_append]
  exact List.prefix_append _ _

theorem merge_isPrefix {front whole : List Product} (h : front <+: whole)
    (first : List Product) : merge [first, front] <+: merge [first, whole] := by
  rw [merge_pair, merge_pair, List.prefix_append_right_inj]
  exact distinctAfter_isPrefix h _

end Product

namespace Fuzzy

/-!
## Near enough
-/

section

variable {narrow wide threshold score other : Binary64}

theorem isNear_of_wider (hwide : narrow.le wide = true) (h : isNear narrow score = true) :
    isNear wide score = true :=
  Binary64.le_trans h hwide

theorem isNaN_of_isNear (h : isNear threshold score = true) : score.isNaN = false := by
  cases score with
  | nan =>
      have hnan : Binary64.ofNat 1 - .nan = .nan := rfl
      rw [isNear, hnan, Binary64.le_iff] at h
      cases h.1
  | signed negative size => rfl

theorem isNear_of_le (hle : score.le other = true) (h : isNear threshold score = true) :
    isNear threshold other = true :=
  Binary64.le_trans (Binary64.sub_le_sub_left (by decide +kernel) hle) h

end

/-!
## The candidates of a wider threshold
-/

/-- All scored products are put in order before those that are not near enough are left out. -/
theorem near_eq_filter (threshold : Binary64) (scored : List (Product × Binary64)) :
    near threshold scored = (scored.mergeSort isNearer).filter (isNear threshold ·.2) :=
  (isNearer_totalPreorder.filter_mergeSort _ scored).symm

theorem near_pairwise (threshold : Binary64) (scored : List (Product × Binary64)) :
    (near threshold scored).Pairwise fun a b => isNearer a b = true :=
  List.pairwise_mergeSort isNearer_totalPreorder.trans isNearer_totalPreorder.total _

theorem isNear_of_mem_near {threshold : Binary64} {scored : List (Product × Binary64)}
    {entry : Product × Binary64} (h : entry ∈ near threshold scored) :
    isNear threshold entry.2 = true := by
  rw [near_eq_filter] at h
  exact (List.mem_filter.mp h).2

theorem near_isPrefix {narrow wide : Binary64} (h : narrow.le wide = true)
    (scored : List (Product × Binary64)) : near narrow scored <+: near wide scored := by
  have hpart : near narrow scored = (near wide scored).filter (isNear narrow ·.2) := by
    rw [near_eq_filter, near_eq_filter, List.filter_filter]
    apply List.filter_congr
    intro entry _
    cases hnear : isNear narrow entry.2 with
    | false => rfl
    | true => exact (isNear_of_wider h hnear).symm
  rw [hpart]
  apply filter_isPrefix
  refine (near_pairwise wide scored).imp_of_mem ?_
  intro a b ha hb hnearer hb'
  refine isNear_of_le (Binary64.le_iff.mpr ⟨?_, ?_, of_decide_eq_true hnearer⟩) hb'
  · exact isNaN_of_isNear (isNear_of_mem_near hb)
  · exact isNaN_of_isNear (isNear_of_mem_near ha)

theorem searchBy_isPrefix (normalize : List Char -> List Char) (measure : Likeness)
    {narrow wide : Binary64} (h : narrow.le wide = true) (query : List Char) (catalog : Catalog) :
    searchBy normalize measure narrow query catalog <+:
      searchBy normalize measure wide query catalog := by
  unfold searchBy
  simp only
  split
  · exact List.prefix_rfl
  · exact near_isPrefix h _

theorem searchBy_of_wordless {normalize : List Char -> List Char} {query : List Char}
    (h : normalize query = []) (measure : Likeness) (threshold : Binary64) (catalog : Catalog) :
    searchBy normalize measure threshold query catalog = [] :=
  if_pos (List.isEmpty_iff.mpr h)

theorem searchBy_of_words {normalize : List Char -> List Char} {query : List Char}
    (h : normalize query ≠ []) (measure : Likeness) (threshold : Binary64) (catalog : Catalog) :
    searchBy normalize measure threshold query catalog =
      near threshold (catalog.map fun product => (product, measure (normalize query) product)) :=
  if_neg fun hempty => h (List.isEmpty_iff.mp hempty)

/-!
## Places in the catalog

Products may be equal, so which of them are candidates is told by their places.
-/

/-- The places of a catalog whose products are near enough, each once, nearest first and equally
near ones in catalog order. -/
structure NearestFirst (score : Product -> Binary64) (threshold : Binary64) (catalog : Catalog)
    (places : List Nat) : Prop where
  once : places.Nodup
  near : forall place : Nat, place ∈ places <->
    exists product : Product, catalog[place]? = some product ∧
      (Binary64.ofNat 1 - score product).le threshold = true
  ordered : places.Pairwise fun a b => forall first second : Product,
    catalog[a]? = some first -> catalog[b]? = some second ->
      (score second).lt (score first) = true ∨
        (score first).equals (score second) = true ∧ a < b

def scoredAt (score : Product -> Binary64) (catalog : Catalog) (places : List Nat) :
    List (Product × Binary64) :=
  places.filterMap fun place => catalog[place]?.map fun product => (product, score product)

section

variable (score : Product -> Binary64) (threshold : Binary64) (catalog : Catalog)

def placed : List ((Product × Binary64) × Nat) :=
  (catalog.map fun product => (product, score product)).zipIdx.mergeSort (List.zipIdxLE isNearer)

theorem placed_map_fst :
    (placed score catalog).map (·.1) =
      (catalog.map fun product => (product, score product)).mergeSort isNearer :=
  List.mergeSort_zipIdx

variable {score catalog}

theorem mem_placed_iff {entry : (Product × Binary64) × Nat} :
    entry ∈ placed score catalog <->
      catalog[entry.2]?.map (fun product => (product, score product)) = some entry.1 := by
  rw [placed, List.mem_mergeSort, List.mem_zipIdx_iff_getElem?, List.getElem?_map]

theorem placed_places_nodup : ((placed score catalog).map (·.2)).Nodup := by
  have hperm : ((placed score catalog).map (·.2)).Perm
      ((catalog.map fun product => (product, score product)).zipIdx.map (·.2)) :=
    (List.mergeSort_perm _ _).map _
  rw [hperm.nodup_iff, List.zipIdx_map_snd]
  exact List.nodup_range'

theorem placed_pairwise :
    (placed score catalog).Pairwise fun a b => List.zipIdxLE isNearer a b = true :=
  List.pairwise_mergeSort (List.zipIdxLE_trans isNearer_totalPreorder.trans)
    (List.zipIdxLE_total isNearer_totalPreorder.total) _

end

theorem before_of_zipIdxLE {a b : (Product × Binary64) × Nat} (ha : a.1.2.isNaN = false)
    (hb : b.1.2.isNaN = false) (hne : a.2 ≠ b.2) (h : List.zipIdxLE isNearer a b = true) :
    b.1.2.lt a.1.2 = true ∨ a.1.2.equals b.1.2 = true ∧ a.2 < b.2 := by
  unfold List.zipIdxLE at h
  split at h
  · rename_i hfront
    have hle : b.1.2.place ≤ a.1.2.place := of_decide_eq_true hfront
    split at h
    · rename_i hback
      have hge : a.1.2.place ≤ b.1.2.place := of_decide_eq_true hback
      have hplace : a.2 ≤ b.2 := of_decide_eq_true h
      exact Or.inr ⟨Binary64.equals_iff.mpr ⟨ha, hb, by omega⟩, by omega⟩
    · rename_i hback
      have hlt : ¬ a.1.2.place ≤ b.1.2.place := fun hge => hback (decide_eq_true hge)
      exact Or.inl (Binary64.lt_iff.mpr ⟨hb, ha, by omega⟩)
  · cases h

theorem near_nearestFirst (score : Product -> Binary64) (threshold : Binary64)
    (catalog : Catalog) :
    exists places : List Nat, NearestFirst score threshold catalog places ∧
      near threshold (catalog.map fun product => (product, score product)) =
        scoredAt score catalog places := by
  have hentry : forall entry, entry ∈ (placed score catalog).filter (isNear threshold ·.1.2) ->
      catalog[entry.2]?.map (fun product => (product, score product)) = some entry.1 ∧
        isNear threshold entry.1.2 = true := by
    intro entry hmem
    rcases List.mem_filter.mp hmem with ⟨hplaced, hnear⟩
    exact ⟨mem_placed_iff.mp hplaced, hnear⟩
  have honce : (((placed score catalog).filter (isNear threshold ·.1.2)).map (·.2)).Nodup :=
    placed_places_nodup.sublist (List.filter_sublist.map _)
  refine ⟨((placed score catalog).filter (isNear threshold ·.1.2)).map (·.2),
    ⟨honce, ?_, ?_⟩, ?_⟩
  · intro place
    constructor
    · intro hmem
      rcases List.mem_map.mp hmem with ⟨entry, hfilter, rfl⟩
      rcases hentry entry hfilter with ⟨hat, hnear⟩
      rcases Option.map_eq_some_iff.mp hat with ⟨product, hproduct, hscored⟩
      rw [← hscored] at hnear
      exact ⟨product, hproduct, hnear⟩
    · rintro ⟨product, hproduct, hnear⟩
      refine List.mem_map.mpr ⟨((product, score product), place), ?_, rfl⟩
      refine List.mem_filter.mpr ⟨mem_placed_iff.mpr ?_, hnear⟩
      rw [hproduct, Option.map_some]
  · rw [List.pairwise_map]
    have hdistinct := List.pairwise_map.mp honce
    refine ((placed_pairwise.filter _).and hdistinct).imp_of_mem ?_
    rintro a b ha hb ⟨hle, hne⟩ first second hfirst hsecond
    rcases hentry a ha with ⟨hat, hnear⟩
    rcases hentry b hb with ⟨hat', hnear'⟩
    rw [hfirst, Option.map_some, Option.some.injEq] at hat
    rw [hsecond, Option.map_some, Option.some.injEq] at hat'
    have hbefore := before_of_zipIdxLE (isNaN_of_isNear hnear) (isNaN_of_isNear hnear') hne hle
    rw [← hat, ← hat'] at hbefore
    exact hbefore
  · have hscored : near threshold (catalog.map fun product => (product, score product)) =
        ((placed score catalog).filter (isNear threshold ·.1.2)).map (·.1) := by
      rw [near_eq_filter, ← placed_map_fst, List.filter_map]
      rfl
    rw [hscored, scoredAt, List.filterMap_map, ← List.filterMap_eq_map]
    apply List.filterMap_congr
    intro entry hmem
    exact (hentry entry hmem).1.symm

end Fuzzy

/-!
## The results of a wider threshold
-/

namespace Results

theorem returned_isPrefix (normalize : List Char -> List Char) (measure : Likeness)
    {narrow wide : Binary64} (h : narrow.le wide = true) (reading : Reading) (catalog : Catalog) :
    returned (some (Fuzzy.matcherBy normalize measure narrow)) reading catalog <+:
      returned (some (Fuzzy.matcherBy normalize measure wide)) reading catalog := by
  unfold returned
  cases matcherText? reading with
  | none => exact List.prefix_rfl
  | some text => exact (Fuzzy.searchBy_isPrefix normalize measure h text catalog).map _

/-- Without an order in effect, the results of a wider threshold begin with those of a narrower
one. -/
theorem ofRequest_isPrefix (normalize : List Char -> List Char) (measure : Likeness)
    {narrow wide : Binary64} (h : narrow.le wide = true) {query : List Char} {sort : Json}
    {options : SearchOptions}
    (horder : orderInEffect (SortKey.request sort).value options.applySortIntent
      (Reading.ofQuery query) = none) (catalog : Catalog) :
    (ofRequest catalog query sort
        { options with matcher := some (Fuzzy.matcherBy normalize measure narrow) }
      ).value.products <+:
      (ofRequest catalog query sort
        { options with matcher := some (Fuzzy.matcherBy normalize measure wide) }
      ).value.products := by
  have hproducts : forall threshold : Binary64,
      (ofRequest catalog query sort
          { options with matcher := some (Fuzzy.matcherBy normalize measure threshold) }
        ).value.products =
        Product.merge [
          Catalog.ranked (Reading.ofQuery query).criteria (options.refinement.narrow catalog),
          (returned (some (Fuzzy.matcherBy normalize measure threshold)) (Reading.ofQuery query)
            (options.refinement.narrow catalog)).filter (Reading.ofQuery query).criteria.admits] :=
    fun _ => ofRequest_products_of_relevance horder
  rw [hproducts, hproducts]
  exact Product.merge_isPrefix ((returned_isPrefix normalize measure h _ _).filter _) _

end Results

namespace Fuzzy

/-- A wider threshold only appends candidates, and with them results.  Whatever the normal form and
the measure, the candidates for a text with a normal form are the near products of the catalog,
nearest first, and a text without one has none. -/
theorem wider_appends (normalize : List Char -> List Char) (measure : Likeness)
    {narrow wide : Binary64} (h : narrow.le wide = true) (query : List Char) (catalog : Catalog) :
    searchBy normalize measure narrow query catalog <+:
        searchBy normalize measure wide query catalog ∧
      (normalize query ≠ [] -> forall threshold : Binary64,
        exists places : List Nat,
          NearestFirst (measure (normalize query)) threshold catalog places ∧
            searchBy normalize measure threshold query catalog =
              scoredAt (measure (normalize query)) catalog places) ∧
      (normalize query = [] -> forall threshold : Binary64,
        searchBy normalize measure threshold query catalog = []) ∧
      forall (sort : Json) (options : SearchOptions),
        Results.orderInEffect (SortKey.request sort).value options.applySortIntent
            (Reading.ofQuery query) = none ->
          (Results.ofRequest catalog query sort
              { options with matcher := some (matcherBy normalize measure narrow) }
            ).value.products <+:
            (Results.ofRequest catalog query sort
              { options with matcher := some (matcherBy normalize measure wide) }
            ).value.products := by
  refine ⟨searchBy_isPrefix normalize measure h query catalog, ?_, ?_, ?_⟩
  · intro hwords threshold
    rw [searchBy_of_words hwords]
    exact near_nearestFirst _ threshold catalog
  · intro hwordless threshold
    exact searchBy_of_wordless hwordless measure threshold catalog
  · intro sort options horder
    exact Results.ofRequest_isPrefix normalize measure h horder catalog

def chairAndLamps : Catalog :=
  [{ id := "1", name := "Chair" }, { id := "2", name := "Lamp" }, { id := "3", name := "Lamp" }]

theorem wider_appends_chairAndLamps :
    Binary64.zero.le (.ofNat 1) = true ∧
      Results.orderInEffect (SortKey.request .null).value ({} : SearchOptions).applySortIntent
        (Reading.ofQuery "lamp".toList) = none ∧
      Text.normalize "lamp".toList ≠ [] ∧ Text.normalize "!!!".toList = [] ∧
      search spellingOrSound .zero "lamp".toList chairAndLamps <+:
        search spellingOrSound (.ofNat 1) "lamp".toList chairAndLamps ∧
      (exists places : List Nat,
        NearestFirst (spellingOrSound (Text.normalize "lamp".toList)) (.ofNat 1) chairAndLamps
            places ∧
          search spellingOrSound (.ofNat 1) "lamp".toList chairAndLamps =
            scoredAt (spellingOrSound (Text.normalize "lamp".toList)) chairAndLamps places) ∧
      search spellingOrSound (.ofNat 1) "!!!".toList chairAndLamps = [] ∧
      (Results.ofRequest chairAndLamps "lamp".toList .null
          { ({} : SearchOptions) with matcher := some (matcher .zero) }).value.products <+:
        (Results.ofRequest chairAndLamps "lamp".toList .null
          { ({} : SearchOptions) with matcher := some (matcher (.ofNat 1)) }).value.products := by
  have hwide : Binary64.zero.le (.ofNat 1) = true := by decide
  have horder : Results.orderInEffect (SortKey.request .null).value
      ({} : SearchOptions).applySortIntent (Reading.ofQuery "lamp".toList) = none := by
    decide
  have hwords : Text.normalize "lamp".toList ≠ [] := by decide
  have hwordless : Text.normalize "!!!".toList = [] := by decide
  have hlamp := wider_appends Text.normalize spellingOrSound hwide "lamp".toList chairAndLamps
  have hmarks := wider_appends Text.normalize spellingOrSound hwide "!!!".toList chairAndLamps
  exact ⟨hwide, horder, hwords, hwordless, hlamp.1, hlamp.2.1 hwords (.ofNat 1),
    hmarks.2.2.1 hwordless (.ofNat 1), hlamp.2.2.2 .null {} horder⟩

def lampOnly : Catalog := [{ id := "1", name := "Lamp" }]

/-- A text without a normal form has no candidates even where the threshold admits every score. -/
theorem not_nearestFirst_of_marks :
    ¬ exists places : List Nat,
      NearestFirst (spellingOrSound (Text.normalize "!!!".toList)) (.ofNat 1) lampOnly places ∧
        search spellingOrSound (.ofNat 1) "!!!".toList lampOnly =
          scoredAt (spellingOrSound (Text.normalize "!!!".toList)) lampOnly places := by
  rintro ⟨places, hplaces, hsearch⟩
  have hnear : (Binary64.ofNat 1 - spellingOrSound (Text.normalize "!!!".toList)
      { id := "1", name := "Lamp" }).le (.ofNat 1) = true := by decide +kernel
  have hmem : 0 ∈ places := (hplaces.near 0).mpr ⟨_, rfl, hnear⟩
  have hnone : search spellingOrSound (.ofNat 1) "!!!".toList lampOnly = [] :=
    searchBy_of_wordless (by decide) _ _ _
  rw [hnone, scoredAt, eq_comm, List.filterMap_eq_nil_iff] at hsearch
  cases hsearch 0 hmem

end Fuzzy

end CatalogSearch
