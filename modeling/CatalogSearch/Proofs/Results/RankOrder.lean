import CatalogSearch.Results.Ranking

/-!
# The order of the ranking

The ranking compares scores first, then prices and then names.  Any two
products can be compared and the comparison is transitive, so that the ranked
products are sorted by it and no score rises along them.
-/

namespace CatalogSearch

namespace Scored

/-!
## Prices
-/

theorem priceLe_total (a b : Option Binary64) :
    priceLe a b = true ∨ priceLe b a = true := by
  cases a with
  | none =>
      right
      cases b <;> rfl
  | some x =>
      cases b with
      | none => exact Or.inl rfl
      | some y =>
          rcases Int.le_total x.place y.place with h | h
          · exact Or.inl (decide_eq_true h)
          · exact Or.inr (decide_eq_true h)

theorem priceLe_trans {a b c : Option Binary64} (hab : priceLe a b = true)
    (hbc : priceLe b c = true) : priceLe a c = true := by
  cases c with
  | none => cases a <;> rfl
  | some z =>
      cases b with
      | none => cases hbc
      | some y =>
          cases a with
          | none => cases hab
          | some x =>
              exact decide_eq_true (Int.le_trans (of_decide_eq_true hab) (of_decide_eq_true hbc))

/-!
## Scored products
-/

theorem ranksBefore_iff {a b : Scored} :
    ranksBefore a b = true <->
      b.score < a.score ∨
        a.score = b.score ∧ priceLe a.product.price b.product.price = true ∧
          (priceLe b.product.price a.product.price = true -> a.product.name ≤ b.product.name) := by
  unfold ranksBefore
  by_cases hscore : a.score = b.score
  · rw [if_neg (not_not_intro hscore)]
    cases hba : priceLe b.product.price a.product.price with
    | false =>
        have hab := (priceLe_total a.product.price b.product.price).resolve_right
          (Bool.eq_false_iff.mp hba)
        simp [hscore, hab]
    | true =>
        cases hab : priceLe a.product.price b.product.price with
        | false => simp [hscore]
        | true => simp [hscore]
  · rw [if_pos hscore, decide_eq_true_iff]
    simp [hscore]

theorem ranksBefore_trans {a b c : Scored} (hab : ranksBefore a b = true)
    (hbc : ranksBefore b c = true) : ranksBefore a c = true := by
  rw [ranksBefore_iff] at hab hbc ⊢
  rcases hab with hlt | ⟨heq, hprice, hname⟩
  · left
    rcases hbc with hlt' | ⟨heq', _, _⟩
    · exact Nat.lt_trans hlt' hlt
    · exact heq' ▸ hlt
  · rcases hbc with hlt' | ⟨heq', hprice', hname'⟩
    · left
      exact heq ▸ hlt'
    · right
      refine ⟨heq.trans heq', priceLe_trans hprice hprice', ?_⟩
      intro hback
      exact String.le_trans (hname (priceLe_trans hprice' hback))
        (hname' (priceLe_trans hback hprice))

theorem ranksBefore_total (a b : Scored) :
    (ranksBefore a b || ranksBefore b a) = true := by
  rw [Bool.or_eq_true, ranksBefore_iff, ranksBefore_iff]
  rcases Nat.lt_trichotomy a.score b.score with hlt | heq | hgt
  · exact Or.inr (Or.inl hlt)
  · by_cases hab : priceLe a.product.price b.product.price = true
    · by_cases hba : priceLe b.product.price a.product.price = true
      · rcases String.le_total a.product.name b.product.name with hname | hname
        · exact Or.inl (Or.inr ⟨heq, hab, fun _ => hname⟩)
        · exact Or.inr (Or.inr ⟨heq.symm, hba, fun _ => hname⟩)
      · exact Or.inl (Or.inr ⟨heq, hab, fun h => absurd h hba⟩)
    · have hba := (priceLe_total a.product.price b.product.price).resolve_left hab
      exact Or.inr (Or.inr ⟨heq.symm, hba, fun h => absurd h hab⟩)
  · exact Or.inl (Or.inl hgt)

theorem ranksBefore_score_le {a b : Scored} (h : ranksBefore a b = true) :
    b.score ≤ a.score := by
  rcases ranksBefore_iff.mp h with hlt | ⟨heq, _⟩
  · exact Nat.le_of_lt hlt
  · exact Nat.le_of_eq heq.symm

end Scored

namespace Catalog

theorem scores_descend (criteria : Criteria) (catalog : Catalog) :
    ((catalog.scored criteria).mergeSort Scored.ranksBefore).Pairwise
      fun a b => b.score ≤ a.score := by
  have hsorted : ((catalog.scored criteria).mergeSort Scored.ranksBefore).Pairwise
      fun a b => Scored.ranksBefore a b = true := by
    apply List.pairwise_mergeSort
    · intro a b c hab hbc
      exact Scored.ranksBefore_trans hab hbc
    · exact Scored.ranksBefore_total
  exact hsorted.imp fun h => Scored.ranksBefore_score_le h

end Catalog

end CatalogSearch
