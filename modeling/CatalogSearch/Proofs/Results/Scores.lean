import CatalogSearch.Proofs.Results.Criteria

/-!
# What a score adds up to

A score is what the id is worth together with what the terms are worth.  Each
term that has to occur is worth at least three points and at most eight, so the
number of terms bounds a score from both sides.
-/

namespace CatalogSearch

open Text

namespace Criteria

/-!
## Terms
-/

theorem termPoints?_bounds {name description term : List Char} {points : Nat}
    (h : termPoints? name description term = some points) : 3 ≤ points ∧ points ≤ 8 := by
  unfold termPoints? at h
  cases hname : occursIn term name <;> cases hdescription : occursIn term description <;>
    simp [hname, hdescription] at h <;> omega

theorem termsPoints?_cons_eq_some {name description term : List Char} {rest : List (List Char)}
    {points : Nat} :
    termsPoints? name description (term :: rest) = some points <->
      exists first others : Nat, termPoints? name description term = some first ∧
        termsPoints? name description rest = some others ∧ points = first + others := by
  rw [termsPoints?]
  cases termPoints? name description term <;> cases termsPoints? name description rest <;>
    simp [eq_comm]

theorem termsPoints?_bounds {name description : List Char} {terms : List (List Char)} {points : Nat}
    (h : termsPoints? name description terms = some points) :
    3 * terms.length ≤ points ∧ points ≤ 8 * terms.length := by
  induction terms generalizing points with
  | nil =>
      rw [← Option.some.inj h]
      exact ⟨Nat.le_refl 0, Nat.le_refl 0⟩
  | cons term rest ih =>
      rcases termsPoints?_cons_eq_some.mp h with ⟨first, others, hfirst, hothers, hpoints⟩
      have hterm := termPoints?_bounds hfirst
      have hrest := ih hothers
      rw [List.length_cons, hpoints]
      omega

theorem termsPoints?_of_forall {name description : List Char} {terms : List (List Char)}
    {each : Nat} (h : forall term, term ∈ terms -> termPoints? name description term = some each) :
    termsPoints? name description terms = some (each * terms.length) := by
  induction terms with
  | nil => rfl
  | cons term rest ih =>
      have hrest := ih fun other hmem => h other (List.mem_cons_of_mem term hmem)
      apply termsPoints?_cons_eq_some.mpr
      refine ⟨each, each * rest.length, h term List.mem_cons_self, hrest, ?_⟩
      rw [List.length_cons, Nat.mul_succ, Nat.add_comm]

/-!
## Products with the wanted id and with one that contains it
-/

theorem idPoints?_of_same {criteria : Criteria} {product : Product} {wanted : String}
    (hid : criteria.id = some wanted) (hsame : product.id = wanted) :
    criteria.idPoints? product = some 1000 := by
  unfold idPoints?
  rw [hid]
  exact if_pos hsame

theorem idPoints?_of_part {criteria : Criteria} {product : Product} {wanted : String}
    (hid : criteria.id = some wanted) (hother : product.id ≠ wanted)
    (hpart : wanted.toList <:+: product.id.toList) :
    criteria.idPoints? product = some 500 := by
  unfold idPoints?
  rw [hid]
  exact (if_neg hother).trans (if_pos (occursIn_iff_isInfix.mpr hpart))

theorem score?_of_same {criteria : Criteria} {product : Product} {wanted : String} {score : Nat}
    (hid : criteria.id = some wanted) (hscore : criteria.score? product = some score)
    (hsame : product.id = wanted) : 1000 + 3 * criteria.terms.length ≤ score := by
  rcases score?_eq_some.mp hscore with ⟨_, _, idPoints, termPoints, hidPoints, hterms, htotal⟩
  rw [idPoints?_of_same hid hsame] at hidPoints
  have hbounds := termsPoints?_bounds hterms
  rw [List.length_map] at hbounds
  rw [htotal, ← Option.some.inj hidPoints]
  exact Nat.add_le_add_left hbounds.1 1000

theorem score?_of_other {criteria : Criteria} {product : Product} {wanted : String} {score : Nat}
    (hid : criteria.id = some wanted) (hscore : criteria.score? product = some score)
    (hother : product.id ≠ wanted) : score ≤ 500 + 8 * criteria.terms.length := by
  have hmeets : criteria.MeetsId product :=
    (score?_isSome_iff.mp (Option.isSome_of_eq_some hscore)).2.1
  rcases score?_eq_some.mp hscore with ⟨_, _, idPoints, termPoints, hidPoints, hterms, htotal⟩
  rw [idPoints?_of_part hid hother (hmeets wanted hid)] at hidPoints
  have hbounds := termsPoints?_bounds hterms
  rw [List.length_map] at hbounds
  rw [htotal, ← Option.some.inj hidPoints]
  exact Nat.add_le_add_left hbounds.2 500

end Criteria

end CatalogSearch
