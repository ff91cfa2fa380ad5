import CatalogSearch.Proofs.Results.Merging

/-!
# The first product of each id

Merged products are those of the sources put one after another, less every product whose id
came before.  What was merged already may be merged again: the order in which sources are put
together does not count, and products of known ids add nothing.
-/

namespace CatalogSearch

namespace Product

def hasId (id : String) (product : Product) : Bool :=
  product.id == id

/-- A part of a list of products that holds, for every id in the list, the first product with it and
no other. -/
structure FirstOfEachId (products listed : List Product) : Prop where
  sublist : listed.Sublist products
  ids_nodup : (listed.map (·.id)).Nodup
  mem_ids : forall id : String, id ∈ listed.map (·.id) <-> id ∈ products.map (·.id)
  first : forall id : String, listed.find? (hasId id) = products.find? (hasId id)

/-!
## What is kept

The induction follows the list again, for ids that were not seen before it.
-/

theorem find?_distinctAfter {seen : List String} {id : String} (h : id ∉ seen)
    (products : List Product) :
    (distinctAfter seen products).find? (hasId id) = products.find? (hasId id) := by
  induction products generalizing seen with
  | nil => rfl
  | cons product rest ih =>
      by_cases hid : product.id = id
      · have hnew : product.id ∉ seen := hid ▸ h
        have hfound : hasId id product = true := beq_iff_eq.mpr hid
        rw [distinctAfter_cons_new hnew, List.find?_cons_of_pos hfound,
          List.find?_cons_of_pos hfound]
      · have hother : ¬ hasId id product = true := fun heq => hid (beq_iff_eq.mp heq)
        rw [List.find?_cons_of_neg hother]
        by_cases hseen : product.id ∈ seen
        · rw [distinctAfter_cons_seen hseen]
          exact ih h
        · rw [distinctAfter_cons_new hseen, List.find?_cons_of_neg hother]
          exact ih (List.not_mem_cons_of_ne_of_not_mem (Ne.symm hid) h)

theorem merge_firstOfEachId (sources : List (List Product)) :
    FirstOfEachId sources.flatten (merge sources) := by
  constructor
  · exact distinctAfter_sublist [] _
  · exact merge_ids_nodup sources
  · intro id
    constructor
    · intro hmem
      exact ((distinctAfter_sublist [] _).map (·.id)).subset hmem
    · intro hmem
      rcases List.mem_map.mp hmem with ⟨product, hproduct, rfl⟩
      exact (@id_mem_distinctAfter [] _ _ hproduct).resolve_left List.not_mem_nil
  · intro id
    exact find?_distinctAfter List.not_mem_nil _

/-!
## Merging again

What is dropped in a first pass would be dropped in a later one that has seen as many ids.
-/

theorem distinctAfter_distinctAfter {seen earlier : List String} (h : earlier ⊆ seen)
    (products : List Product) :
    distinctAfter seen (distinctAfter earlier products) = distinctAfter seen products := by
  induction products generalizing seen earlier with
  | nil => rfl
  | cons product rest ih =>
      by_cases hearlier : product.id ∈ earlier
      · rw [distinctAfter_cons_seen hearlier, distinctAfter_cons_seen (h hearlier)]
        exact ih h
      · rw [distinctAfter_cons_new hearlier]
        by_cases hseen : product.id ∈ seen
        · rw [distinctAfter_cons_seen hseen, distinctAfter_cons_seen hseen]
          exact ih (List.cons_subset.mpr ⟨hseen, h⟩)
        · rw [distinctAfter_cons_new hseen, distinctAfter_cons_new hseen]
          congr 1
          exact ih (List.cons_subset_cons product.id h)

theorem distinctAfter_eq_nil {seen : List String} {products : List Product}
    (h : forall product, product ∈ products -> product.id ∈ seen) :
    distinctAfter seen products = [] := by
  induction products with
  | nil => rfl
  | cons product rest ih =>
      rw [distinctAfter_cons_seen (h product List.mem_cons_self)]
      exact ih fun other hmem => h other (List.mem_cons_of_mem product hmem)

theorem distinct_distinct (products : List Product) :
    distinct (distinct products) = distinct products :=
  distinctAfter_distinctAfter (List.Subset.refl []) products

theorem distinct_append (front back : List Product) :
    distinct (front ++ back) =
      distinct front ++ distinctAfter ((distinct front).map (·.id)) back := by
  unfold distinct
  rw [distinctAfter_append, List.append_nil]

theorem distinct_distinct_append (front back : List Product) :
    distinct (distinct front ++ back) = distinct (front ++ back) := by
  rw [distinct_append, distinct_distinct, distinct_append]

theorem distinct_append_distinct (front back : List Product) :
    distinct (front ++ distinct back) = distinct (front ++ back) := by
  rw [distinct_append, distinct_append]
  congr 1
  exact distinctAfter_distinctAfter (List.nil_subset _) back

theorem merge_merge_left (a b c : List Product) :
    merge [merge [a, b], c] = merge [a, b, c] := by
  have hflat : [distinct (a ++ b), c].flatten = distinct (a ++ b) ++ c := by simp
  have hall : [a, b, c].flatten = (a ++ b) ++ c := by simp
  have hpair : merge [a, b] = distinct (a ++ b) := by simp [merge]
  rw [hpair, merge, merge, hflat, hall]
  exact distinct_distinct_append (a ++ b) c

theorem merge_merge_right (a b c : List Product) :
    merge [a, merge [b, c]] = merge [a, b, c] := by
  have hflat : [a, distinct (b ++ c)].flatten = a ++ distinct (b ++ c) := by simp
  have hall : [a, b, c].flatten = a ++ (b ++ c) := by simp
  have hpair : merge [b, c] = distinct (b ++ c) := by simp [merge]
  rw [hpair, merge, merge, hflat, hall]
  exact distinct_append_distinct a (b ++ c)

theorem merge_known {sources : List (List Product)} {others : List Product}
    (h : forall product, product ∈ others -> product.id ∈ (merge sources).map (·.id)) :
    merge [merge sources, others] = merge sources := by
  have hagain : distinct (merge sources) = merge sources := distinct_distinct sources.flatten
  rw [merge_pair, hagain, distinctAfter_eq_nil h, List.append_nil]

/-- Merging keeps the first product of each id, in whatever order the sources are merged, and
leaves merged products as they are when products of their ids are put behind them. -/
theorem merge_unites :
    (forall sources : List (List Product), FirstOfEachId sources.flatten (merge sources)) ∧
      (forall a b c : List Product,
        merge [merge [a, b], c] = merge [a, b, c] ∧ merge [a, merge [b, c]] = merge [a, b, c]) ∧
      (forall sources : List (List Product),
        merge [merge sources, merge sources] = merge sources ∧
          forall others : List Product,
            (forall product, product ∈ others -> product.id ∈ (merge sources).map (·.id)) ->
              merge [merge sources, others] = merge sources) := by
  refine ⟨merge_firstOfEachId, ?_, ?_⟩
  · intro a b c
    exact ⟨merge_merge_left a b c, merge_merge_right a b c⟩
  · intro sources
    refine ⟨merge_known fun product hmem => List.mem_map_of_mem hmem, ?_⟩
    intro others hothers
    exact merge_known hothers

def twoLampsOneId : List Product :=
  [{ id := "1", name := "Desk lamp" }, { id := "2", name := "Shelf" },
    { id := "1", name := "Lamp" }]

theorem merge_unites_twoLampsOneId :
    (forall product, product ∈ twoLampsOneId ->
        product.id ∈ (merge [twoLampsOneId]).map (·.id)) ∧
      merge [merge [twoLampsOneId], twoLampsOneId] = merge [twoLampsOneId] := by
  have hknown : forall product, product ∈ twoLampsOneId ->
      product.id ∈ (merge [twoLampsOneId]).map (·.id) := by
    decide
  exact ⟨hknown, (merge_unites.2.2 [twoLampsOneId]).2 twoLampsOneId hknown⟩

end Product

end CatalogSearch
