import CatalogSearch.Proofs.Results.Scores
import CatalogSearch.Proofs.Results.Selection
import Mathlib.Algebra.Ring.Nat
import Mathlib.Data.List.Infix

/-!
# Terms one by one

Every occurrence of a term asks for itself and counts for itself.  A product is
kept under several terms exactly when it is kept under each, and its score is
what its id is worth together with what every occurrence is worth, so that the
order of the terms is of no account and further terms only leave products out
and raise the scores of the others.
-/

namespace CatalogSearch

open Text

namespace Criteria

def withTerms (criteria : Criteria) (terms : List String) : Criteria :=
  { criteria with terms := terms }

def idWorth (criteria : Criteria) (product : Product) : Nat :=
  match criteria.id with
  | none => 0
  | some wanted => if product.id = wanted then 1000 else 500

def termWorth (product : Product) (term : String) : Nat :=
  (if term.toList <:+: lower product.name.toList then 5 else 0) +
    if term.toList <:+: lower product.description.toList then 3 else 0

def termsWorth (product : Product) (terms : List String) : Nat :=
  (terms.map (termWorth product)).sum

theorem termsWorth_cons (product : Product) (term : String) (rest : List String) :
    termsWorth product (term :: rest) = termWorth product term + termsWorth product rest := by
  rw [termsWorth, List.map_cons, List.sum_cons, termsWorth]

theorem termsWorth_append (product : Product) (terms others : List String) :
    termsWorth product (terms ++ others) =
      termsWorth product terms + termsWorth product others := by
  rw [termsWorth, List.map_append, List.sum_append, termsWorth, termsWorth]

theorem termsWorth_perm (product : Product) {terms others : List String}
    (h : terms.Perm others) : termsWorth product terms = termsWorth product others :=
  (h.map _).sum_nat

/-!
## One product
-/

variable {criteria : Criteria} {product : Product} {terms others : List String} {score : Nat}

theorem termWorth_pos_iff {term : String} :
    0 < termWorth product term <-> TermOccurs product term.toList := by
  unfold termWorth TermOccurs
  by_cases hname : term.toList <:+: lower product.name.toList <;>
    by_cases hdescription : term.toList <:+: lower product.description.toList <;>
      simp [hname, hdescription]

theorem termPoints?_eq_termWorth {term : String} (h : TermOccurs product term.toList) :
    termPoints? (lower product.name.toList) (lower product.description.toList) term.toList =
      some (termWorth product term) := by
  have hfound : ¬ (!occursIn term.toList (lower product.name.toList) &&
      !occursIn term.toList (lower product.description.toList)) = true := by
    rw [TermOccurs, ← occursIn_iff_isInfix, ← occursIn_iff_isInfix] at h
    simpa [Decidable.imp_iff_not_or] using h
  rw [termPoints?, if_neg hfound]
  simp only [termWorth, ← occursIn_iff_isInfix]

theorem termsPoints?_eq_termsWorth
    (h : forall term, term ∈ terms -> TermOccurs product term.toList) :
    termsPoints? (lower product.name.toList) (lower product.description.toList)
      (terms.map String.toList) = some (termsWorth product terms) := by
  induction terms with
  | nil => rfl
  | cons term rest ih =>
      apply termsPoints?_cons_eq_some.mpr
      exact ⟨_, _, termPoints?_eq_termWorth (h term List.mem_cons_self),
        ih fun other hmem => h other (List.mem_cons_of_mem term hmem),
        termsWorth_cons product term rest⟩

theorem idPoints?_eq_idWorth (h : criteria.MeetsId product) :
    criteria.idPoints? product = some (criteria.idWorth product) := by
  cases hid : criteria.id with
  | none => simp [idPoints?, idWorth, hid]
  | some wanted =>
      by_cases hsame : product.id = wanted
      · rw [idPoints?_of_same hid hsame]
        simp [idWorth, hid, hsame]
      · rw [idPoints?_of_part hid hsame (h wanted hid)]
        simp [idWorth, hid, hsame]

/-- What a product scores, term by term. -/
theorem score?_withTerms_eq_some_iff :
    (criteria.withTerms terms).score? product = some score <->
      criteria.admits product = true ∧ (forall term, term ∈ terms -> 0 < termWorth product term) ∧
        score = criteria.idWorth product + termsWorth product terms := by
  have hkept : ((criteria.withTerms terms).score? product).isSome = true <->
      criteria.admits product = true ∧
        forall term, term ∈ terms -> 0 < termWorth product term := by
    have hadmits : criteria.admits product = true <->
        product.id ≠ "" ∧ (criteria.withTerms terms).MeetsId product ∧
          (criteria.withTerms terms).MeetsPrice product := admits_iff
    have hterms : (criteria.withTerms terms).MeetsTerms product <->
        forall term, term ∈ terms -> 0 < termWorth product term :=
      forall₂_congr fun _ _ => termWorth_pos_iff.symm
    rw [score?_isSome_iff, hadmits, ← hterms, and_assoc, and_assoc]
  have hvalue : forall score : Nat, (criteria.withTerms terms).score? product = some score ->
      score = criteria.idWorth product + termsWorth product terms := by
    intro score hscore
    have hmeets := score?_isSome_iff.mp (Option.isSome_of_eq_some hscore)
    rcases score?_eq_some.mp hscore with ⟨_, _, idPoints, termPoints, hid, hterms, htotal⟩
    have hidWorth : some idPoints = some (criteria.idWorth product) :=
      hid.symm.trans (idPoints?_eq_idWorth hmeets.2.1)
    have htermsWorth : some termPoints = some (termsWorth product terms) :=
      hterms.symm.trans (termsPoints?_eq_termsWorth hmeets.2.2.2)
    rw [htotal, Option.some.inj hidWorth, Option.some.inj htermsWorth]
  constructor
  · intro hscore
    have hsome := hkept.mp (Option.isSome_of_eq_some hscore)
    exact ⟨hsome.1, hsome.2, hvalue score hscore⟩
  · rintro ⟨hadmits, hterms, rfl⟩
    rcases Option.isSome_iff_exists.mp (hkept.mpr ⟨hadmits, hterms⟩) with ⟨score, hscore⟩
    rw [hscore, hvalue score hscore]

theorem score?_withTerms_isSome_iff :
    ((criteria.withTerms terms).score? product).isSome = true <->
      criteria.admits product = true ∧
        forall term, term ∈ terms -> 0 < termWorth product term := by
  rw [Option.isSome_iff_exists]
  simp only [score?_withTerms_eq_some_iff, exists_and_left, exists_eq, and_true]

theorem score?_withTerms_perm (h : terms.Perm others) :
    (criteria.withTerms terms).score? product = (criteria.withTerms others).score? product := by
  apply Option.ext
  intro score
  rw [score?_withTerms_eq_some_iff, score?_withTerms_eq_some_iff, termsWorth_perm product h]
  simp only [h.mem_iff]

/-- Further terms ask for more and count for more. -/
theorem exists_score?_of_append
    (h : (criteria.withTerms (terms ++ others)).score? product = some score) :
    exists least : Nat, (criteria.withTerms terms).score? product = some least ∧ least ≤ score := by
  rcases score?_withTerms_eq_some_iff.mp h with ⟨hadmits, hterms, rfl⟩
  refine ⟨criteria.idWorth product + termsWorth product terms, ?_, ?_⟩
  · exact score?_withTerms_eq_some_iff.mpr
      ⟨hadmits, fun term hmem => hterms term (List.mem_append_left others hmem), rfl⟩
  · rw [termsWorth_append]
    exact Nat.add_le_add_left (Nat.le_add_right _ _) _

/-!
## Catalogs
-/

/-- What the terms of criteria do to the scores of products and to the ranking of catalogs. -/
structure CountsEachTerm (criteria : Criteria) : Prop where
  /-- A product is kept under the terms of two lists exactly if it is kept under both. -/
  kept_append : forall (product : Product) (terms others : List String),
    ((criteria.withTerms (terms ++ others)).score? product).isSome = true <->
      ((criteria.withTerms terms).score? product).isSome = true ∧
        ((criteria.withTerms others).score? product).isSome = true
  /-- A product is kept if it is admitted and every term is worth something, and it scores what the
  id is worth and what every occurrence of a term is worth. -/
  score_iff : forall (product : Product) (terms : List String) (score : Nat),
    (criteria.withTerms terms).score? product = some score <->
      criteria.admits product = true ∧ (forall term, term ∈ terms -> 0 < termWorth product term) ∧
        score = criteria.idWorth product + (terms.map (termWorth product)).sum
  /-- The order of the terms changes no score and no ranking. -/
  order_free : forall terms others : List String, terms.Perm others ->
    (forall product : Product,
      (criteria.withTerms terms).score? product = (criteria.withTerms others).score? product) ∧
      forall catalog : Catalog,
        catalog.ranked (criteria.withTerms terms) = catalog.ranked (criteria.withTerms others)
  /-- Further terms rank no further product and lower the score of none. -/
  further : forall terms others : List String,
    (forall (product : Product) (score : Nat),
      (criteria.withTerms (terms ++ others)).score? product = some score ->
        exists least : Nat,
          (criteria.withTerms terms).score? product = some least ∧ least ≤ score) ∧
      forall catalog : Catalog,
        catalog.ranked (criteria.withTerms (terms ++ others)) ⊆
          catalog.ranked (criteria.withTerms terms)

/-- Terms ask and count one by one, whatever else is asked for. -/
theorem countsEachTerm (criteria : Criteria) : CountsEachTerm criteria := by
  constructor
  · intro product terms others
    rw [score?_withTerms_isSome_iff, score?_withTerms_isSome_iff, score?_withTerms_isSome_iff,
      List.forall_mem_append]
    exact and_and_left
  · intro product terms score
    exact score?_withTerms_eq_some_iff
  · intro terms others hperm
    have hscore : forall product : Product,
        (criteria.withTerms terms).score? product = (criteria.withTerms others).score? product :=
      fun product => score?_withTerms_perm hperm
    refine ⟨hscore, fun catalog => ?_⟩
    simp only [Catalog.ranked, Catalog.scored, hscore]
  · intro terms others
    refine ⟨fun product score hscore => exists_score?_of_append hscore, ?_⟩
    intro catalog product hmem
    rcases Catalog.mem_ranked_iff.mp hmem with ⟨hcatalog, hkept⟩
    rcases Option.isSome_iff_exists.mp hkept with ⟨score, hscore⟩
    rcases exists_score?_of_append hscore with ⟨least, hleast, _⟩
    exact Catalog.mem_ranked_iff.mpr ⟨hcatalog, Option.isSome_of_eq_some hleast⟩

def deskLamp : Product :=
  { id := "1", name := "Desk lamp", description := "A lamp of brass" }

def wantedFirst : Criteria :=
  { id := some "1" }

theorem countsEachTerm_deskLamp :
    (wantedFirst.withTerms (["lamp", "desk"] ++ ["lamp"])).score? deskLamp = some 1021 ∧
      ["lamp", "desk"].Perm ["desk", "lamp"] ∧
      (wantedFirst.withTerms ["lamp", "desk"]).score? deskLamp =
        (wantedFirst.withTerms ["desk", "lamp"]).score? deskLamp ∧
      exists least : Nat, (wantedFirst.withTerms ["lamp", "desk"]).score? deskLamp = some least ∧
        least ≤ 1021 := by
  have hcounts := countsEachTerm wantedFirst
  have hscore : (wantedFirst.withTerms (["lamp", "desk"] ++ ["lamp"])).score? deskLamp =
      some 1021 := (hcounts.score_iff deskLamp _ _).mpr (by decide)
  have hperm : ["lamp", "desk"].Perm ["desk", "lamp"] := List.Perm.swap "desk" "lamp" []
  exact ⟨hscore, hperm, (hcounts.order_free _ _ hperm).1 deskLamp,
    (hcounts.further _ _).1 deskLamp _ hscore⟩

end Criteria

end CatalogSearch
