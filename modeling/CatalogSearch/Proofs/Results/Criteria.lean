import CatalogSearch.Proofs.Text.Occurrence
import CatalogSearch.Results.Ranking

/-!
# What criteria ask of a product

The conditions of criteria are stated without reference to scores: the id asked
for is a part of the product's id, the price meets its condition, and every
term is a part of the lower case name or description.  A product is admitted or
scored exactly when it meets the conditions that bind it.
-/

namespace CatalogSearch

open Text

namespace Criteria

def MeetsId (criteria : Criteria) (product : Product) : Prop :=
  forall wanted, criteria.id = some wanted -> wanted.toList <:+: product.id.toList

def MeetsPrice (criteria : Criteria) (product : Product) : Prop :=
  forall condition, criteria.price = some condition -> condition.holds product.price = true

def TermOccurs (product : Product) (term : List Char) : Prop :=
  term <:+: lower product.name.toList ∨ term <:+: lower product.description.toList

def MeetsTerms (criteria : Criteria) (product : Product) : Prop :=
  forall term, term ∈ criteria.terms -> TermOccurs product term.toList

/-!
## Conditions on id and price
-/

theorem idScore?_isSome_iff {wanted id : String} :
    (idScore? wanted id).isSome = true <-> wanted.toList <:+: id.toList := by
  unfold idScore?
  by_cases hsame : id = wanted
  · simp [hsame]
  · by_cases hpart : occursIn wanted.toList id.toList = true
    · simp [hsame, hpart, occursIn_iff_isInfix.mp hpart]
    · have hnot : ¬ wanted.toList <:+: id.toList := fun h => hpart (occursIn_iff_isInfix.mpr h)
      simp [hsame, hpart, hnot]

theorem idPoints?_isSome_iff {criteria : Criteria} {product : Product} :
    (criteria.idPoints? product).isSome = true <-> criteria.MeetsId product := by
  unfold idPoints? MeetsId
  cases criteria.id with
  | none => simp
  | some wanted => simp [idScore?_isSome_iff]

theorem admitsPrice_iff {criteria : Criteria} {product : Product} :
    criteria.admitsPrice product = true <-> criteria.MeetsPrice product := by
  unfold admitsPrice MeetsPrice
  cases criteria.price <;> simp

theorem admits_iff {criteria : Criteria} {product : Product} :
    criteria.admits product = true <->
      product.id ≠ "" ∧ criteria.MeetsId product ∧ criteria.MeetsPrice product := by
  unfold admits
  rw [Bool.and_eq_true, Bool.and_eq_true, idPoints?_isSome_iff, admitsPrice_iff, and_assoc,
    bne_iff_ne]

/-!
## Terms
-/

theorem termPoints?_isSome_iff {product : Product} {term : List Char} :
    (termPoints? (lower product.name.toList) (lower product.description.toList) term).isSome =
        true <->
      TermOccurs product term := by
  unfold termPoints? TermOccurs
  rw [← occursIn_iff_isInfix, ← occursIn_iff_isInfix]
  cases occursIn term (lower product.name.toList) <;>
    cases occursIn term (lower product.description.toList) <;> simp

theorem termsPoints?_isSome_iff {product : Product} {terms : List (List Char)} :
    (termsPoints? (lower product.name.toList) (lower product.description.toList) terms).isSome =
        true <->
      forall term, term ∈ terms -> TermOccurs product term := by
  induction terms with
  | nil => simp [termsPoints?]
  | cons term rest ih =>
      rw [List.forall_mem_cons, ← ih, ← termPoints?_isSome_iff, termsPoints?]
      cases termPoints? (lower product.name.toList) (lower product.description.toList) term <;>
        cases termsPoints? (lower product.name.toList) (lower product.description.toList) rest <;>
          simp

theorem score?_eq_some {criteria : Criteria} {product : Product} {score : Nat} :
    criteria.score? product = some score <->
      product.id ≠ "" ∧ criteria.admitsPrice product = true ∧
        exists idPoints termPoints : Nat, criteria.idPoints? product = some idPoints ∧
          termsPoints? (lower product.name.toList) (lower product.description.toList)
            (criteria.terms.map String.toList) = some termPoints ∧
          score = idPoints + termPoints := by
  unfold score?
  by_cases hid : product.id = ""
  · simp [hid]
  · cases criteria.idPoints? product <;> cases criteria.admitsPrice product <;>
      cases termsPoints? (lower product.name.toList) (lower product.description.toList)
        (criteria.terms.map String.toList) <;> simp [hid, eq_comm]

theorem score?_isSome_iff {criteria : Criteria} {product : Product} :
    (criteria.score? product).isSome = true <->
      product.id ≠ "" ∧ criteria.MeetsId product ∧ criteria.MeetsPrice product ∧
        criteria.MeetsTerms product := by
  have hterms : criteria.MeetsTerms product <->
      (termsPoints? (lower product.name.toList) (lower product.description.toList)
        (criteria.terms.map String.toList)).isSome = true := by
    rw [termsPoints?_isSome_iff]
    simp [MeetsTerms]
  rw [hterms, ← idPoints?_isSome_iff, ← admitsPrice_iff]
  simp only [Option.isSome_iff_exists, score?_eq_some]
  constructor
  · rintro ⟨_, hid, hprice, idPoints, termPoints, hpoints, hterm, _⟩
    exact ⟨hid, ⟨idPoints, hpoints⟩, hprice, ⟨termPoints, hterm⟩⟩
  · rintro ⟨hid, ⟨idPoints, hpoints⟩, hprice, ⟨termPoints, hterm⟩⟩
    exact ⟨_, hid, hprice, idPoints, termPoints, hpoints, hterm, rfl⟩

end Criteria

end CatalogSearch
