import CatalogSearch.Proofs.Results.Independence
import CatalogSearch.Proofs.Results.SortedResults

/-!
# The ranked products

The products that meet the criteria are ranked by score, then priced ones before the others,
then by price, then by name, and products that are equal in all of these stay as the catalog
has them.  Only one list is ranked in this way.  So the order of the catalog shows in the
results of a query only where two of its products cannot be told apart.
-/

namespace CatalogSearch

namespace Criteria

def survivors (criteria : Criteria) (catalog : Catalog) : List Product :=
  catalog.filter fun product => (criteria.score? product).isSome

/-- What may stand in front of what in the ranking. -/
inductive RanksInOrder (criteria : Criteria) (a b : Product) : Prop
  | score {m n : Nat} :
      criteria.score? a = some m -> criteria.score? b = some n -> n < m ->
      RanksInOrder criteria a b
  | priced {x : Binary64} :
      criteria.score? a = criteria.score? b -> a.price = some x -> b.price = none ->
      RanksInOrder criteria a b
  | price {x y : Binary64} :
      criteria.score? a = criteria.score? b -> a.price = some x -> b.price = some y ->
      x.lt y = true -> RanksInOrder criteria a b
  | name :
      criteria.score? a = criteria.score? b -> samePrice a.price b.price = true ->
      a.name ≤ b.name -> RanksInOrder criteria a b

def sameRank (criteria : Criteria) (a b : Product) : Bool :=
  criteria.score? a == criteria.score? b && samePrice a.price b.price && a.name == b.name

def TellsApart (criteria : Criteria) (catalog : Catalog) : Prop :=
  forall a b : Product, a ∈ criteria.survivors catalog -> b ∈ criteria.survivors catalog ->
    criteria.sameRank a b = true -> a = b

end Criteria

/-- The survivors of a catalog in the order of the ranking, those of one rank as they are in the
catalog. -/
structure StablyRanked (criteria : Criteria) (catalog : Catalog) (listed : List Product) :
    Prop where
  perm : listed.Perm (criteria.survivors catalog)
  inOrder : listed.Pairwise criteria.RanksInOrder
  stable : forall product : Product,
    listed.filter (criteria.sameRank product) =
      (criteria.survivors catalog).filter (criteria.sameRank product)

/-!
## Ranks
-/

def NumericPrice (product : Product) : Prop :=
  forall price : Binary64, product.price = some price -> price.isNaN = false

section Ranks

variable {criteria : Criteria} {a b : Product}

theorem sameRank_iff :
    criteria.sameRank a b = true <->
      criteria.score? a = criteria.score? b ∧ samePrice a.price b.price = true ∧
        a.name = b.name := by
  unfold Criteria.sameRank
  rw [Bool.and_eq_true, Bool.and_eq_true, beq_iff_eq, beq_iff_eq, and_assoc]

theorem sameRank_self (h : NumericPrice a) :
    criteria.sameRank a a = true :=
  sameRank_iff.mpr ⟨rfl, samePrice_self h, rfl⟩

theorem samePrice_of_priceLe {x y : Option Binary64} (hx : forall p, x = some p -> p.isNaN = false)
    (hy : forall p, y = some p -> p.isNaN = false) (hxy : Scored.priceLe x y = true)
    (hyx : Scored.priceLe y x = true) :
    samePrice x y = true :=
  samePrice_of_inOrder (fun _ _ => place_eq_of_not_lt) hx hy (pricesInOrder_of_priceLe hxy)
    (pricesInOrder_of_priceLe hyx)

variable {m n : Nat} (ha : criteria.score? a = some m) (hb : criteria.score? b = some n)
  (hnumberA : NumericPrice a) (hnumberB : NumericPrice b)

include ha hb

theorem score_eq_iff :
    criteria.score? a = criteria.score? b <-> m = n := by
  rw [ha, hb, Option.some.injEq]

include hnumberA hnumberB

theorem ranksInOrder_of_ranksBefore (h : Scored.ranksBefore ⟨a, m⟩ ⟨b, n⟩ = true) :
    criteria.RanksInOrder a b := by
  rcases Scored.ranksBefore_iff.mp h with hlt | ⟨hscore, hprice, hname⟩
  · exact .score ha hb hlt
  · have hsame := (score_eq_iff ha hb).mpr hscore
    by_cases hback : Scored.priceLe b.price a.price = true
    · exact .name hsame (samePrice_of_priceLe hnumberA hnumberB hprice hback) (hname hback)
    · cases hpriceA : a.price with
      | none =>
          rw [hpriceA] at hback
          exact absurd (by cases b.price <;> rfl) hback
      | some x =>
          cases hpriceB : b.price with
          | none => exact .priced hsame hpriceA hpriceB
          | some y =>
              rw [hpriceA, hpriceB] at hback
              have hplace : x.place < y.place := Int.not_le.mp fun hle => hback (decide_eq_true hle)
              exact .price hsame hpriceA hpriceB
                (Binary64.lt_iff.mpr ⟨hnumberA x hpriceA, hnumberB y hpriceB, hplace⟩)

omit hnumberA hnumberB in
theorem ranksBefore_of_ranksInOrder (h : criteria.RanksInOrder a b) :
    Scored.ranksBefore ⟨a, m⟩ ⟨b, n⟩ = true := by
  rw [Scored.ranksBefore_iff]
  cases h with
  | score hscoreA hscoreB hlt =>
      rw [ha] at hscoreA
      rw [hb] at hscoreB
      rw [← Option.some.inj hscoreA, ← Option.some.inj hscoreB] at hlt
      exact Or.inl hlt
  | priced hsame hpriceA hpriceB =>
      refine Or.inr ⟨(score_eq_iff ha hb).mp hsame, ?_, ?_⟩
      · rw [hpriceA, hpriceB]
        rfl
      · rw [hpriceA, hpriceB]
        nofun
  | price hsame hpriceA hpriceB hlt =>
      have hplace := (Binary64.lt_iff.mp hlt).2.2
      refine Or.inr ⟨(score_eq_iff ha hb).mp hsame, ?_, ?_⟩
      · rw [hpriceA, hpriceB]
        exact decide_eq_true (Int.le_of_lt hplace)
      · rw [hpriceA, hpriceB]
        intro hback
        exact absurd hplace (Int.not_lt.mpr (of_decide_eq_true hback))
  | name hsame hprice hname =>
      exact Or.inr ⟨(score_eq_iff ha hb).mp hsame, (priceLe_of_samePrice hprice).1.1,
        fun _ => hname⟩

theorem sameRank_of_ranksInOrder (hab : criteria.RanksInOrder a b)
    (hba : criteria.RanksInOrder b a) :
    criteria.sameRank a b = true := by
  have hfirst := Scored.ranksBefore_iff.mp (ranksBefore_of_ranksInOrder ha hb hab)
  have hsecond := Scored.ranksBefore_iff.mp (ranksBefore_of_ranksInOrder hb ha hba)
  rcases hfirst with hlt | ⟨hscore, hprice, hname⟩
  · rcases hsecond with hlt' | ⟨hscore, _⟩
    · exact absurd hlt (Nat.lt_asymm hlt')
    · exact absurd hlt (Nat.not_lt.mpr (Nat.le_of_eq hscore.symm))
  · rcases hsecond with hlt | ⟨_, hprice', hname'⟩
    · exact absurd hlt (Nat.not_lt.mpr (Nat.le_of_eq hscore.symm))
    · exact sameRank_iff.mpr ⟨(score_eq_iff ha hb).mpr hscore,
        samePrice_of_priceLe hnumberA hnumberB hprice hprice',
        String.le_antisymm (hname hprice') (hname' hprice)⟩

omit hnumberA hnumberB in
theorem ranksBefore_of_sameRank (h : criteria.sameRank a b = true) :
    Scored.ranksBefore ⟨a, m⟩ ⟨b, n⟩ = true ∧ Scored.ranksBefore ⟨b, n⟩ ⟨a, m⟩ = true := by
  rcases sameRank_iff.mp h with ⟨hsame, hprice, hname⟩
  have hscore := (score_eq_iff ha hb).mp hsame
  rcases (priceLe_of_samePrice hprice).1 with ⟨hab, hba⟩
  exact ⟨Scored.ranksBefore_iff.mpr (Or.inr ⟨hscore, hab, fun _ => hname ▸ String.le_refl _⟩),
    Scored.ranksBefore_iff.mpr (Or.inr ⟨hscore.symm, hba, fun _ => hname ▸ String.le_refl _⟩)⟩

end Ranks

/-!
## The ranking of a catalog
-/

namespace Catalog

variable {criteria : Criteria} {catalog catalog' : Catalog}

theorem mem_survivors_iff {product : Product} :
    product ∈ criteria.survivors catalog <->
      product ∈ catalog ∧ exists score : Nat, criteria.score? product = some score := by
  unfold Criteria.survivors
  rw [List.mem_filter, Option.isSome_iff_exists]

theorem scored_products (criteria : Criteria) (catalog : Catalog) :
    (catalog.scored criteria).map (·.product) = criteria.survivors catalog := by
  unfold scored Criteria.survivors
  rw [List.map_filterMap, ← List.filterMap_eq_filter]
  apply List.filterMap_congr
  intro product _
  cases hscore : criteria.score? product <;> simp [hscore, Option.guard]

theorem ranked_perm (criteria : Criteria) (catalog : Catalog) :
    (catalog.ranked criteria).Perm (criteria.survivors catalog) := by
  rw [← scored_products]
  exact (List.mergeSort_perm _ _).map _

theorem ranked_inOrder (criteria : Criteria) (hnumeric : HaveNumericPrices catalog) :
    (catalog.ranked criteria).Pairwise criteria.RanksInOrder := by
  have hsorted : ((catalog.scored criteria).mergeSort Scored.ranksBefore).Pairwise
      fun a b => Scored.ranksBefore a b = true :=
    List.pairwise_mergeSort Scored.ranksBefore_totalPreorder.trans
      Scored.ranksBefore_totalPreorder.total _
  unfold ranked
  rw [List.pairwise_map]
  apply hsorted.imp_of_mem
  intro a b ha hb hbefore
  rcases mem_scored_iff.mp (List.mem_mergeSort.mp ha) with ⟨hmemA, hscoreA⟩
  rcases mem_scored_iff.mp (List.mem_mergeSort.mp hb) with ⟨hmemB, hscoreB⟩
  exact ranksInOrder_of_ranksBefore hscoreA hscoreB (hnumeric _ hmemA) (hnumeric _ hmemB) hbefore

theorem ranked_filter_sameRank (criteria : Criteria) (catalog : Catalog) (product : Product) :
    (catalog.ranked criteria).filter (criteria.sameRank product) =
      (criteria.survivors catalog).filter (criteria.sameRank product) := by
  have hsorted : (scored criteria (catalog.filter (criteria.sameRank product))).mergeSort
      Scored.ranksBefore = scored criteria (catalog.filter (criteria.sameRank product)) := by
    apply List.mergeSort_of_pairwise
    apply List.pairwise_of_forall_mem_list
    intro a ha b hb
    rcases mem_scored_iff.mp ha with ⟨hmemA, hscoreA⟩
    rcases mem_scored_iff.mp hb with ⟨hmemB, hscoreB⟩
    have hscore : criteria.score? product = some a.score :=
      (sameRank_iff.mp (List.mem_filter.mp hmemA).2).1.trans hscoreA
    have hfirst := (ranksBefore_of_sameRank hscore hscoreA (List.mem_filter.mp hmemA).2).2
    have hsecond := (ranksBefore_of_sameRank hscore hscoreB (List.mem_filter.mp hmemB).2).1
    exact Scored.ranksBefore_trans hfirst hsecond
  rw [← ranked_filter, ranked, hsorted, scored_products, Criteria.survivors, Criteria.survivors,
    List.filter_comm]

theorem ranked_stablyRanked (criteria : Criteria) (hnumeric : HaveNumericPrices catalog) :
    StablyRanked criteria catalog (catalog.ranked criteria) :=
  ⟨ranked_perm criteria catalog, ranked_inOrder criteria hnumeric,
    ranked_filter_sameRank criteria catalog⟩

theorem sameRank_of_survivors (hnumeric : HaveNumericPrices catalog) {a b : Product}
    (ha : a ∈ criteria.survivors catalog) (hb : b ∈ criteria.survivors catalog)
    (hab : criteria.RanksInOrder a b) (hba : criteria.RanksInOrder b a) :
    criteria.sameRank a b = true := by
  rcases mem_survivors_iff.mp ha with ⟨hmemA, _, hscoreA⟩
  rcases mem_survivors_iff.mp hb with ⟨hmemB, _, hscoreB⟩
  exact sameRank_of_ranksInOrder hscoreA hscoreB (hnumeric a hmemA) (hnumeric b hmemB) hab hba

/-- The ranking does not see how a catalog is arranged if it can tell the survivors apart. -/
theorem ranked_eq_of_perm (hperm : catalog'.Perm catalog) (hnumeric : HaveNumericPrices catalog)
    (hapart : criteria.TellsApart catalog) :
    catalog'.ranked criteria = catalog.ranked criteria := by
  have hnumeric' : HaveNumericPrices catalog' := fun product hmem =>
    hnumeric product (hperm.mem_iff.mp hmem)
  have hsurvivors : (criteria.survivors catalog').Perm (criteria.survivors catalog) :=
    hperm.filter _
  have hranked := (ranked_perm criteria catalog').trans
    (hsurvivors.trans (ranked_perm criteria catalog).symm)
  refine List.Perm.eq_of_pairwise ?_ (ranked_inOrder criteria hnumeric')
    (ranked_inOrder criteria hnumeric) hranked
  intro a b ha hb hab hba
  have hsurvivorA := (ranked_perm criteria catalog).mem_iff.mp (hranked.mem_iff.mp ha)
  have hsurvivorB := (ranked_perm criteria catalog).mem_iff.mp hb
  exact hapart a b hsurvivorA hsurvivorB
    (sameRank_of_survivors hnumeric hsurvivorA hsurvivorB hab hba)

end Catalog

theorem StablyRanked.unique {criteria : Criteria} {catalog : Catalog} {listed other : List Product}
    (hnumeric : HaveNumericPrices catalog) (h : StablyRanked criteria catalog listed)
    (h' : StablyRanked criteria catalog other) :
    other = listed := by
  have hsurvivor : forall product : Product, product ∈ other ++ listed ->
      product ∈ criteria.survivors catalog := by
    intro product hmem
    rcases List.mem_append.mp hmem with hmem | hmem
    · exact h'.perm.mem_iff.mp hmem
    · exact h.perm.mem_iff.mp hmem
  refine eq_of_sorted ?_ ?_ h'.inOrder h.inOrder
    (fun product => (h'.stable product).trans (h.stable product).symm)
  · intro product hmem
    exact sameRank_self (hnumeric product (Catalog.mem_survivors_iff.mp (hsurvivor product hmem)).1)
  · intro a b ha hb hab hba
    exact Catalog.sameRank_of_survivors hnumeric (hsurvivor a ha) (hsurvivor b hb) hab hba

/-!
## Results
-/

namespace Results

structure SamePages (results results' : Results) : Prop where
  page : forall number size : Int, results'.page number size = results.page number size
  facets : results'.facets = results.facets
  reading : results'.reading = results.reading

theorem mergedProducts_eq_of_perm {catalog catalog' : Catalog} {query : List Char}
    {options : SearchOptions} (hperm : catalog'.Perm catalog)
    (hnumeric : HaveNumericPrices catalog) (hmatcher : options.matcher = none)
    (hapart : (Reading.ofQuery query).criteria.TellsApart (options.refinement.narrow catalog)) :
    mergedProducts catalog' query options = mergedProducts catalog query options := by
  have hnarrowed :
      (options.refinement.narrow catalog').Perm (options.refinement.narrow catalog) := by
    rw [Refinement.narrow_eq_filter, Refinement.narrow_eq_filter]
    exact hperm.filter _
  have hnumbers : HaveNumericPrices (options.refinement.narrow catalog) := fun product hmem =>
    hnumeric product (Refinement.mem_narrow_iff.mp hmem).1
  have hranked := Catalog.ranked_eq_of_perm hnarrowed hnumbers hapart
  unfold mergedProducts
  rw [hmatcher, merged_value, merged_value, hranked]
  rfl

theorem ofRequest_samePages {catalog catalog' : Catalog} {query : List Char}
    {options : SearchOptions} (sort : Json) (hperm : catalog'.Perm catalog)
    (hnumeric : HaveNumericPrices catalog) (hmatcher : options.matcher = none)
    (hapart : (Reading.ofQuery query).criteria.TellsApart (options.refinement.narrow catalog)) :
    SamePages (ofRequest catalog query sort options).value
      (ofRequest catalog' query sort options).value := by
  have hproducts : (ofRequest catalog' query sort options).value.products =
      (ofRequest catalog query sort options).value.products := by
    rw [ofRequest_products, ofRequest_products,
      mergedProducts_eq_of_perm hperm hnumeric hmatcher hapart]
  constructor
  · intro number size
    rw [page, page, hproducts]
  · rw [facets, facets, hproducts]
  · rfl

/-- The ranked products are the one stable ranking of the survivors.  Catalogs with the same
products give the same pages without a matcher, if the ranking can tell the survivors apart. -/
theorem ranked_isStableRanking {catalog : Catalog} (hnumeric : HaveNumericPrices catalog) :
    (forall criteria : Criteria,
      StablyRanked criteria catalog (catalog.ranked criteria) ∧
        forall listed : List Product,
          StablyRanked criteria catalog listed -> listed = catalog.ranked criteria) ∧
      (forall (catalog' : Catalog) (query : List Char) (sort : Json) (options : SearchOptions),
        catalog'.Perm catalog -> options.matcher = none ->
          (Reading.ofQuery query).criteria.TellsApart (options.refinement.narrow catalog) ->
            SamePages (ofRequest catalog query sort options).value
              (ofRequest catalog' query sort options).value) := by
  constructor
  · intro criteria
    have hranked := Catalog.ranked_stablyRanked criteria hnumeric
    exact ⟨hranked, fun listed hlisted => StablyRanked.unique hnumeric hranked hlisted⟩
  · intro catalog' query sort options hperm hmatcher hapart
    exact ofRequest_samePages sort hperm hnumeric hmatcher hapart

theorem ranked_isStableRanking_pricedShelf :
    HaveNumericPrices pricedShelf ∧ pricedShelf.reverse.Perm pricedShelf ∧
      (Reading.ofQuery "lamp".toList).criteria.TellsApart pricedShelf ∧
      SamePages (ofRequest pricedShelf "lamp".toList .null {}).value
        (ofRequest pricedShelf.reverse "lamp".toList .null {}).value := by
  have hnumeric : HaveNumericPrices pricedShelf := by
    intro product hmem price hprice
    simp only [pricedShelf, List.mem_cons, List.not_mem_nil, or_false] at hmem
    rcases hmem with rfl | rfl | rfl <;> cases hprice <;> decide
  have hperm : pricedShelf.reverse.Perm pricedShelf := List.reverse_perm pricedShelf
  have hranks : ((Reading.ofQuery "lamp".toList).criteria.survivors pricedShelf).all (fun a =>
      ((Reading.ofQuery "lamp".toList).criteria.survivors pricedShelf).all fun b =>
        !(Reading.ofQuery "lamp".toList).criteria.sameRank a b || a == b) = true := by
    decide +kernel
  have hapart : (Reading.ofQuery "lamp".toList).criteria.TellsApart pricedShelf := by
    intro a b ha hb hsame
    have heq := List.all_eq_true.mp (List.all_eq_true.mp hranks a ha) b hb
    rw [hsame] at heq
    exact beq_iff_eq.mp heq
  exact ⟨hnumeric, hperm, hapart,
    (ranked_isStableRanking hnumeric).2 pricedShelf.reverse "lamp".toList .null {} hperm rfl hapart⟩

end Results

end CatalogSearch
