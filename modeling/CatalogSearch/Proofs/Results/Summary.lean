import CatalogSearch.Proofs.Number.Order
import CatalogSearch.Results.Facets

/-!
# What facets say about products

The names of a summary are exactly those of the products, each once and in
increasing order.  Its prices are the ends of the span of prices: prices of
products that no other price lies beyond.
-/

namespace CatalogSearch

structure ListsNames (names : List String) (values : List (Option String)) : Prop where
  increasing : names.Pairwise (· < ·)
  mem_iff : forall name : String, name ∈ names <-> name ≠ "" ∧ some name ∈ values

structure IsEnd (lt le : Binary64 -> Binary64 -> Bool) (prices : List Binary64)
    (extreme : Option Binary64) : Prop where
  none_iff : extreme = none <-> prices = []
  mem : forall price, extreme = some price -> price ∈ prices
  not_lt : forall price, extreme = some price ->
    forall other, other ∈ prices -> lt other price = false
  le : forall price, extreme = some price ->
    (forall other, other ∈ prices -> other.isNaN = false) ->
    forall other, other ∈ prices -> le price other = true

def IsLeast (prices : List Binary64) (least : Option Binary64) : Prop :=
  IsEnd (fun x y => x.lt y) (fun x y => x.le y) prices least

def IsGreatest (prices : List Binary64) (greatest : Option Binary64) : Prop :=
  IsEnd (fun x y => y.lt x) (fun x y => y.le x) prices greatest

/-- A summary that says of products what a summary should. -/
structure Facets.Summarizes (facets : Facets) (products : List Product) : Prop where
  brands : ListsNames facets.brands (products.map (·.brand))
  categories : ListsNames facets.categories (products.map (·.category))
  minPrice : IsLeast (products.filterMap (·.price)) facets.minPrice
  maxPrice : IsGreatest (products.filterMap (·.price)) facets.maxPrice

namespace Facets

/-!
## Names
-/

theorem eraseDups_nodup (names : List String) :
    names.eraseDups.Nodup := by
  cases names with
  | nil => exact List.nodup_nil
  | cons name rest =>
      rw [List.eraseDups_cons, List.nodup_cons]
      constructor
      · rw [List.mem_eraseDups]
        simp
      · exact eraseDups_nodup (rest.filter fun other => !other == name)
termination_by names.length
decreasing_by exact Nat.lt_succ_of_le (List.length_filter_le _ _)

theorem names_pairwise_le (values : List (Option String)) :
    (names values).Pairwise (· ≤ ·) := by
  have hsorted : (names values).Pairwise fun a b => decide (a ≤ b) = true := by
    apply List.pairwise_mergeSort
    · intro a b c hab hbc
      exact decide_eq_true (String.le_trans (of_decide_eq_true hab) (of_decide_eq_true hbc))
    · intro a b
      simpa using String.le_total a b
  exact hsorted.imp fun h => of_decide_eq_true h

theorem names_lists (values : List (Option String)) :
    ListsNames (names values) values := by
  constructor
  · have hnodup : (names values).Nodup :=
      (List.mergeSort_perm _ _).nodup_iff.mpr (eraseDups_nodup _)
    exact List.Pairwise.imp₂ (fun _ _ hle hne => Std.lt_of_le_of_ne hle hne)
      (names_pairwise_le values) hnodup
  · intro name
    unfold names
    rw [List.mem_mergeSort, List.mem_eraseDups, List.mem_filter, List.mem_filterMap, bne_iff_ne,
      and_comm]
    simp

/-!
## Prices

What is first under an order stays so while the rest of the prices is gone
through: the induction is on the rest, and the prices that were seen already
are general.
-/

theorem foldl_first
    {lt : Binary64 -> Binary64 -> Bool}
    (htrans : forall x y z, lt x y = true -> lt y z = true -> lt x z = true)
    (hirrefl : forall x, lt x x = false) {seen rest : List Binary64} {first : Binary64}
    (hmem : first ∈ seen) (hfirst : forall other, other ∈ seen -> lt other first = false) :
    rest.foldl (fun x y => if lt y x then y else x) first ∈ seen ++ rest ∧
      forall other, other ∈ seen ++ rest ->
        lt other (rest.foldl (fun x y => if lt y x then y else x) first) = false := by
  induction rest generalizing seen first with
  | nil =>
      rw [List.append_nil]
      exact ⟨hmem, hfirst⟩
  | cons price rest ih =>
      rw [List.foldl_cons, List.append_cons]
      cases hprice : lt price first with
      | true =>
          rw [if_pos rfl]
          apply ih (List.mem_append_right _ (List.mem_singleton.mpr rfl))
          intro other hother
          rcases List.mem_append.mp hother with hseen | hlast
          · cases hlt : lt other price with
            | false => rfl
            | true =>
                rw [← hfirst other hseen]
                exact (htrans other price first hlt hprice).symm
          · rw [List.mem_singleton.mp hlast]
            exact hirrefl price
      | false =>
          rw [if_neg Bool.false_ne_true]
          apply ih (List.mem_append_left _ hmem)
          intro other hother
          rcases List.mem_append.mp hother with hseen | hlast
          · exact hfirst other hseen
          · rw [List.mem_singleton.mp hlast]
            exact hprice

theorem foldl_isEnd
    (lt le : Binary64 -> Binary64 -> Bool)
    (htrans : forall x y z, lt x y = true -> lt y z = true -> lt x z = true)
    (hirrefl : forall x, lt x x = false)
    (hle : forall x y, x.isNaN = false -> y.isNaN = false -> lt y x = false -> le x y = true)
    (first : Binary64) (rest : List Binary64) :
    IsEnd lt le (first :: rest) (some (rest.foldl (fun x y => if lt y x then y else x) first)) := by
  have hself : forall other, other ∈ [first] -> lt other first = false := by
    intro other hother
    rw [List.mem_singleton.mp hother]
    exact hirrefl first
  rcases foldl_first htrans hirrefl (List.mem_singleton.mpr rfl) hself with
    ⟨hmem, hfirst⟩
  constructor
  · simp
  · intro price hprice
    rw [← Option.some.inj hprice]
    exact hmem
  · intro price hprice
    rw [← Option.some.inj hprice]
    exact hfirst
  · intro price hprice hnumbers other hother
    rw [← Option.some.inj hprice]
    exact hle _ other (hnumbers _ hmem) (hnumbers other hother) (hfirst other hother)

theorem isEnd_nil (lt le : Binary64 -> Binary64 -> Bool) :
    IsEnd lt le [] none := by
  constructor <;> simp

theorem least_isLeast (prices : List Binary64) :
    IsLeast prices (least prices) := by
  cases prices with
  | nil => exact isEnd_nil _ _
  | cons first rest =>
      exact foldl_isEnd (fun x y => x.lt y) (fun x y => x.le y)
        (fun _ _ _ hxy hyz => Binary64.lt_trans hxy hyz) Binary64.lt_irrefl
        (fun _ _ hx hy h => Binary64.le_of_not_lt hx hy h) first rest

theorem greatest_isGreatest (prices : List Binary64) :
    IsGreatest prices (greatest prices) := by
  cases prices with
  | nil => exact isEnd_nil _ _
  | cons first rest =>
      exact foldl_isEnd (fun x y => y.lt x) (fun x y => y.le x)
        (fun _ _ _ hxy hyz => Binary64.lt_trans hyz hxy) Binary64.lt_irrefl
        (fun _ _ hx hy h => Binary64.le_of_not_lt hy hx h) first rest

theorem ofList_summarizes (products : List Product) :
    (ofList products).Summarizes products :=
  ⟨names_lists _, names_lists _, least_isLeast _, greatest_isGreatest _⟩

end Facets

end CatalogSearch
