import CatalogSearch.Proofs.Results.RankOrder
import CatalogSearch.Results.Order
import Mathlib.Data.List.Basic

/-!
# Sorting a part of a list

A stable sort does not care about elements that are left out: to sort some of
the elements is to leave the others out of the sorted list.  This holds of the
ranking, of every explicit order and of the order by likeness.
-/

namespace CatalogSearch

structure TotalPreorder {α : Type} (le : α -> α -> Bool) : Prop where
  trans : forall a b c, le a b = true -> le b c = true -> le a c = true
  total : forall a b, (le a b || le b a) = true

namespace TotalPreorder

variable {α : Type} {le : α -> α -> Bool}

/-- The first element stands before those that it may precede and behind all others. -/
theorem mergeSort_cons (h : TotalPreorder le) (first : α) (rest : List α) :
    exists front back : List α,
      (first :: rest).mergeSort le = front ++ first :: back ∧
        rest.mergeSort le = front ++ back ∧
        (forall other, other ∈ front -> le first other = false) ∧
        (forall other, other ∈ back -> le first other = true) := by
  rcases List.mergeSort_cons h.trans h.total first rest with ⟨front, back, hall, hrest, hfront⟩
  have hsorted : (front ++ first :: back).Pairwise fun a b => le a b = true := by
    rw [← hall]
    exact List.pairwise_mergeSort h.trans h.total _
  refine ⟨front, back, hall, hrest, ?_, ?_⟩
  · intro other hmem
    simpa using hfront other hmem
  · exact (List.pairwise_cons.mp (List.pairwise_append.mp hsorted).2.1).1

theorem mergeSort_cons_eq (h : TotalPreorder le) (first : α) (rest : List α) :
    (first :: rest).mergeSort le =
      (rest.mergeSort le).filter (fun other => !le first other) ++
        first :: (rest.mergeSort le).filter (le first) := by
  rcases h.mergeSort_cons first rest with ⟨front, back, hall, hrest, hfront, hback⟩
  have hnone : front.filter (le first) = [] := by
    rw [List.filter_eq_nil_iff]
    intro other hmem
    simp [hfront other hmem]
  have hothers : back.filter (fun other => !le first other) = [] := by
    rw [List.filter_eq_nil_iff]
    intro other hmem
    simp [hback other hmem]
  have hkept : front.filter (fun other => !le first other) = front := by
    rw [List.filter_eq_self]
    intro other hmem
    simp [hfront other hmem]
  rw [hall, hrest, List.filter_append, List.filter_append, hkept, hothers, hnone,
    List.filter_eq_self.mpr hback, List.append_nil, List.nil_append]

theorem filter_mergeSort (h : TotalPreorder le) (keep : α -> Bool) (items : List α) :
    (items.mergeSort le).filter keep = (items.filter keep).mergeSort le := by
  induction items with
  | nil => rw [List.filter_nil, List.mergeSort_nil, List.filter_nil]
  | cons first rest ih =>
      cases hkeep : keep first with
      | false =>
          rcases h.mergeSort_cons first rest with ⟨front, back, hall, hrest, _, _⟩
          have hfirst : ¬ keep first = true := by simp [hkeep]
          rw [List.filter_cons_of_neg hfirst, ← ih, hall, hrest, List.filter_append,
            List.filter_append, List.filter_cons_of_neg hfirst]
      | true =>
          have hcomm : forall which : α -> Bool,
              ((rest.mergeSort le).filter which).filter keep =
                ((rest.filter keep).mergeSort le).filter which := by
            intro which
            rw [← ih, List.filter_comm]
          rw [List.filter_cons_of_pos hkeep, h.mergeSort_cons_eq first (rest.filter keep),
            h.mergeSort_cons_eq first rest, List.filter_append, List.filter_cons_of_pos hkeep,
            hcomm, hcomm]

theorem comap (h : TotalPreorder le) {β : Type} (f : β -> α) :
    TotalPreorder fun a b => le (f a) (f b) :=
  ⟨fun a b c => h.trans (f a) (f b) (f c), fun a b => h.total (f a) (f b)⟩

theorem flip (h : TotalPreorder le) : TotalPreorder fun a b => le b a :=
  ⟨fun a b c hab hbc => h.trans c b a hbc hab, fun a b => h.total b a⟩

end TotalPreorder

/-!
## The orders of results
-/

theorem textLe_totalPreorder : TotalPreorder fun a b : String => decide (a ≤ b) := by
  constructor
  · intro a b c hab hbc
    exact decide_eq_true (String.le_trans (of_decide_eq_true hab) (of_decide_eq_true hbc))
  · intro a b
    simpa using String.le_total a b

theorem placeLe_totalPreorder : TotalPreorder fun a b : Binary64 => decide (a.place ≤ b.place) := by
  constructor
  · intro a b c hab hbc
    exact decide_eq_true (Int.le_trans (of_decide_eq_true hab) (of_decide_eq_true hbc))
  · intro a b
    simpa using Int.le_total a.place b.place

theorem Scored.ranksBefore_totalPreorder : TotalPreorder Scored.ranksBefore :=
  ⟨fun _ _ _ => ranksBefore_trans, ranksBefore_total⟩

theorem Scored.priceLe_totalPreorder : TotalPreorder Scored.priceLe := by
  constructor
  · exact fun _ _ _ => priceLe_trans
  · intro a b
    simpa using priceLe_total a b

namespace SortKey

/-- Prices fall among the priced, and the unpriced come last as they do when prices rise. -/
theorem priceGe_totalPreorder : TotalPreorder priceGe := by
  constructor
  · intro a b c hab hbc
    cases c with
    | none => cases a <;> rfl
    | some z =>
        cases b with
        | none => cases hbc
        | some y =>
            cases a with
            | none => cases hab
            | some x => exact placeLe_totalPreorder.flip.trans x y z hab hbc
  · intro a b
    cases a with
    | none => cases b <;> rfl
    | some x =>
        cases b with
        | none => rfl
        | some y => exact placeLe_totalPreorder.flip.total x y

theorem before_totalPreorder (key : SortKey) : TotalPreorder key.before := by
  cases key with
  | name => exact textLe_totalPreorder.comap Product.name
  | id => exact textLe_totalPreorder.comap Product.id
  | priceAscending => exact Scored.priceLe_totalPreorder.comap Product.price
  | priceDescending => exact priceGe_totalPreorder.comap Product.price

theorem filter_sort (key : Option SortKey) (keep : Product -> Bool) (products : List Product) :
    (sort key products).filter keep = sort key (products.filter keep) := by
  cases key with
  | none => rfl
  | some key => exact key.before_totalPreorder.filter_mergeSort keep products

end SortKey

end CatalogSearch
