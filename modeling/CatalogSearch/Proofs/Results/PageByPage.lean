import CatalogSearch.Proofs.Results.Paging
import CatalogSearch.Proofs.Results.Summary

/-!
# Results shown page by page

The pages from the first to the first after which there is no more show every
result once and in order.  Each of them tells rightly whether another follows
and how many results there are, and the facets are those of all results, on
whatever page they are shown.
-/

namespace CatalogSearch

namespace Page

theorem ofList_clamped (products : List Product) (page size : Int) :
    ofList products page size = ofList products (max page 1) (max size 1) := by
  have hcount : forall n : Int, atLeastOne n = atLeastOne (max n 1) := by
    intro n
    unfold atLeastOne
    omega
  unfold ofList
  rw [hcount page, hcount size]

theorem hasMore_iff_next (products : List Product) (start : Nat) (size : Int) :
    (ofList products ((start : Int) + 1) size).hasMore = true <->
      (ofList products ((start : Int) + 2) size).items ≠ [] := by
  have hnext : (start : Int) + 2 = ((start + 1 : Nat) : Int) + 1 := by omega
  have hsize := one_le_atLeastOne size
  rw [hnext, ofList_succ_hasMore, ofList_succ_items, ne_eq, List.take_eq_nil_iff,
    List.drop_eq_nil_iff, Nat.add_one_mul]
  omega

end Page

namespace Results

open Page

theorem pagesAfter_eq_range (results : Results) (size : Int) (start : Nat) :
    exists count : Nat,
      results.pagesAfter size start =
          (List.range' start (count + 1)).map
            (fun n : Nat => results.page ((n : Int) + 1) size) ∧
        (forall n, start ≤ n -> n < start + count ->
          (results.page ((n : Int) + 1) size).hasMore = true) ∧
        (results.page (((start + count : Nat) : Int) + 1) size).hasMore = false := by
  induction start using pagesAfter.induct results size with
  | case1 start page hmore ih =>
      rcases ih with ⟨count, hpages, hbefore, hlast⟩
      refine ⟨count + 1, ?_, ?_, ?_⟩
      · rw [pagesAfter, dif_pos hmore, hpages]
        rfl
      · intro n hle hlt
        rcases Nat.eq_or_lt_of_le hle with heq | hgt
        · rw [← heq]
          exact hmore
        · exact hbefore n hgt (by omega)
      · rw [Nat.add_comm count 1, ← Nat.add_assoc]
        exact hlast
  | case2 start page hlast =>
      refine ⟨0, ?_, ?_, ?_⟩
      · rw [pagesAfter, dif_neg hlast]
        rfl
      · intro n hle hlt
        omega
      · exact Bool.not_eq_true _ ▸ hlast

/-- Pages that show a list of results in full, with the facets beside them. -/
structure ShownByPages (results : Results) (size : Int) : Prop where
  pages : exists last : Nat,
    results.pagesAfter size 0 =
        (List.range (last + 1)).map (fun n : Nat => results.page ((n : Int) + 1) size) ∧
      (forall n, n < last -> (results.page ((n : Int) + 1) size).hasMore = true) ∧
      (results.page ((last : Int) + 1) size).hasMore = false
  items : (results.pagesAfter size 0).flatMap (·.items) = results.products
  total : forall page : Int, (results.page page size).total = results.products.length
  hasMore_iff : forall n : Nat,
    (results.page ((n : Int) + 1) size).hasMore = true <->
      (results.page ((n : Int) + 2) size).items ≠ []
  clamped : forall page : Int, results.page page size = results.page (max page 1) (max size 1)
  facets : results.facets.Summarizes results.products

theorem shownByPages (results : Results) (size : Int) :
    ShownByPages results size := by
  constructor
  · rcases results.pagesAfter_eq_range size 0 with ⟨last, hpages, hbefore, hlast⟩
    rw [Nat.zero_add] at hbefore hlast
    refine ⟨last, ?_, fun n => hbefore n (Nat.zero_le n), hlast⟩
    rw [hpages, List.range_eq_range']
  · exact results.listed_eq_products size
  · intro page
    rfl
  · exact fun n => hasMore_iff_next results.products n size
  · exact fun page => ofList_clamped results.products page size
  · exact Facets.ofList_summarizes results.products

/-- The pages of a query, read on while there is more, are its results, and each page and the
facets speak for all of them. -/
theorem ofRequest_shownByPages (catalog : Catalog) (query : List Char) (sort : Json)
    (options : SearchOptions) (size : Int) :
    ShownByPages (ofRequest catalog query sort options).value size :=
  shownByPages _ size

end Results

end CatalogSearch
