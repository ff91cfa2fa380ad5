import CatalogSearch.Proofs.Results.TermByTerm

/-!
# Admission and scores

Whether a product is admitted and whether it is scored are decided apart, once
by a test and once while points are added up.  Both come to the same: a product
is admitted exactly when it would be scored if no term were asked for, and
scored exactly when it is admitted and every term occurs in it, so that the
candidates of a matcher are bound by the conditions on id and price that bind
the exact results.
-/

namespace CatalogSearch

namespace Criteria

variable {criteria : Criteria} {product : Product}

/-- A product is admitted exactly when it is scored without any term. -/
theorem admits_iff_scored :
    criteria.admits product = true <->
      ((criteria.withTerms []).score? product).isSome = true := by
  have hnone : (criteria.withTerms []).MeetsTerms product := nofun
  rw [admits_iff, score?_isSome_iff]
  constructor
  · rintro ⟨hid, hmeetsId, hprice⟩
    exact ⟨hid, hmeetsId, hprice, hnone⟩
  · rintro ⟨hid, hmeetsId, hprice, _⟩
    exact ⟨hid, hmeetsId, hprice⟩

theorem scored_iff_admits :
    (criteria.score? product).isSome = true <->
      criteria.admits product = true ∧
        forall term : String, term ∈ criteria.terms -> TermOccurs product term.toList := by
  rw [score?_isSome_iff, admits_iff, and_assoc, and_assoc]
  rfl

/-- How the test for admission and the scores of criteria go together. -/
structure AdmitsAsScored (criteria : Criteria) : Prop where
  /-- The test asks for an id, for the id wanted in it and for a price within the condition. -/
  conditions : forall product : Product,
    criteria.admits product = true <->
      product.id ≠ "" ∧ criteria.MeetsId product ∧ criteria.MeetsPrice product
  /-- The test admits what is scored without any term. -/
  admits_iff : forall product : Product,
    criteria.admits product = true <-> ((criteria.withTerms []).score? product).isSome = true
  /-- What is scored is admitted and has every term in its name or its description. -/
  scored_iff : forall product : Product,
    (criteria.score? product).isSome = true <->
      criteria.admits product = true ∧
        forall term : String, term ∈ criteria.terms -> TermOccurs product term.toList
  /-- An exact result is a product of the catalog that is admitted and has every term. -/
  ranked_iff : forall (catalog : Catalog) (product : Product),
    product ∈ catalog.ranked criteria <->
      product ∈ catalog ∧ criteria.admits product = true ∧
        forall term : String, term ∈ criteria.terms -> TermOccurs product term.toList
  /-- A candidate is a product that the matcher returned and that is admitted. -/
  proposed_iff : forall (matcher : Option Matcher) (reading : Reading) (catalog : Catalog)
      (product : Product), reading.criteria = criteria ->
    (product ∈ (Results.proposed matcher reading catalog).value <->
      product ∈ Results.returned matcher reading catalog ∧ criteria.admits product = true)

theorem admitsAsScored (criteria : Criteria) : AdmitsAsScored criteria := by
  constructor
  · exact fun _ => Criteria.admits_iff
  · exact fun _ => admits_iff_scored
  · exact fun _ => scored_iff_admits
  · intro catalog product
    rw [Catalog.mem_ranked_iff, scored_iff_admits]
  · rintro matcher reading catalog product rfl
    rw [Results.proposed_value, List.mem_filter]

def cheapLamp : Reading :=
  { criteria := { price := some (.compare .atMost (.ofNat 40)), terms := ["lamp"] }
    residual := "lamp".toList }

def cheapShelf : Product :=
  { id := "2", name := "Shelf", price := some (.ofNat 30) }

theorem admitsAsScored_cheapLamp :
    cheapLamp.criteria.admits cheapShelf = true ∧
      ((cheapLamp.criteria.withTerms []).score? cheapShelf).isSome = true ∧
      "lamp" ∈ cheapLamp.criteria.terms ∧ ¬ TermOccurs cheapShelf "lamp".toList ∧
      (cheapLamp.criteria.score? cheapShelf).isSome = false ∧
      cheapShelf ∈ (Results.proposed (some Results.proposeAll) cheapLamp [cheapShelf]).value := by
  have hagrees := admitsAsScored cheapLamp.criteria
  have hadmits : cheapLamp.criteria.admits cheapShelf = true := by decide +kernel
  have hterm : "lamp" ∈ cheapLamp.criteria.terms := List.mem_cons_self
  have hreturned : cheapShelf ∈
      Results.returned (some Results.proposeAll) cheapLamp [cheapShelf] := by decide +kernel
  have habsent : ¬ TermOccurs cheapShelf "lamp".toList := by
    rw [← @termWorth_pos_iff cheapShelf "lamp"]
    decide
  refine ⟨hadmits, (hagrees.admits_iff cheapShelf).mp hadmits, hterm, habsent, ?_,
    (hagrees.proposed_iff _ cheapLamp _ _ rfl).mpr ⟨hreturned, hadmits⟩⟩
  rw [← Bool.not_eq_true, hagrees.scored_iff]
  exact fun hscored => habsent (hscored.2 "lamp" hterm)

end Criteria

end CatalogSearch
