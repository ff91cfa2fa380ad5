import CatalogSearch.Results.Evaluation

/-!
# Turning the pages

Whoever reads on while there is more sees every page once.  The pages that
are read so are defined here, and their items together are the whole list of
results.
-/

namespace CatalogSearch

namespace Page

theorem atLeastOne_succ (start : Nat) : atLeastOne ((start : Int) + 1) = start + 1 := by
  unfold atLeastOne
  omega

theorem ofList_succ_items (products : List Product) (start : Nat) (size : Int) :
    (ofList products ((start : Int) + 1) size).items =
      (products.drop (start * atLeastOne size)).take (atLeastOne size) := by
  simp [ofList, atLeastOne_succ]

theorem ofList_succ_hasMore (products : List Product) (start : Nat) (size : Int) :
    (ofList products ((start : Int) + 1) size).hasMore = true <->
      start * atLeastOne size + atLeastOne size < products.length := by
  simp [ofList, atLeastOne_succ]

end Page

namespace Results

open Page

def pagesAfter (results : Results) (size : Int) (start : Nat) : List Page :=
  let page := results.page ((start : Int) + 1) size
  if _ : page.hasMore = true then page :: pagesAfter results size (start + 1) else [page]
termination_by results.products.length - start * atLeastOne size
decreasing_by
  rename_i hmore
  have hlength := (ofList_succ_hasMore results.products start size).mp hmore
  have hsize := one_le_atLeastOne size
  rw [Nat.add_one_mul]
  omega

def listed (results : Results) (size : Int) : List Product :=
  (results.pagesAfter size 0).flatMap (·.items)

theorem pagesAfter_items (results : Results) (size : Int) (start : Nat) :
    (results.pagesAfter size start).flatMap (·.items) =
      results.products.drop (start * atLeastOne size) := by
  induction start using pagesAfter.induct results size with
  | case1 start page hmore ih =>
      rw [pagesAfter, dif_pos hmore, List.flatMap_cons, ih]
      simp only [Results.page, ofList_succ_items]
      rw [Nat.add_one_mul, ← List.drop_drop, List.take_append_drop]
  | case2 start page hlast =>
      rw [pagesAfter, dif_neg hlast]
      have hend : ¬ start * atLeastOne size + atLeastOne size < results.products.length :=
        fun h => hlast ((ofList_succ_hasMore results.products start size).mpr h)
      rw [List.flatMap_cons, List.flatMap_nil, List.append_nil, Results.page,
        ofList_succ_items]
      apply List.take_of_length_le
      rw [List.length_drop]
      omega

/-- Reading on while there is more gives the whole list of results. -/
theorem listed_eq_products (results : Results) (size : Int) :
    results.listed size = results.products := by
  unfold listed
  rw [pagesAfter_items, Nat.zero_mul, List.drop_zero]

end Results

end CatalogSearch
