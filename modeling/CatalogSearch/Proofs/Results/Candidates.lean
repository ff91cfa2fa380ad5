import CatalogSearch.Proofs.Results.Selection

/-!
# What a matcher adds

A matcher only adds to the exact results.  In the order of relevance its
candidates come behind them, and where it has no candidates or is not asked the
results are those without it.
-/

namespace CatalogSearch

inductive MatcherAnswer.IsBare : MatcherAnswer -> Prop
  | failed : IsBare .failed
  | nothing : IsBare .nothing
  | empty : IsBare (.candidates [])

/-- A list that goes on from another with the candidates whose ids are new, in their order and one
of each id. -/
structure Extends (exact candidates listed added : List Product) : Prop where
  split : listed = exact ++ added
  order : added.Sublist candidates
  ids_nodup : (added.map (·.id)).Nodup
  ids_new : forall product, product ∈ added -> product.id ∉ exact.map (·.id)
  complete : forall candidate, candidate ∈ candidates -> candidate.id ∈ listed.map (·.id)

theorem Product.merge_extends (exact candidates : List Product) :
    Extends (merge [exact, []]) candidates (merge [exact, candidates])
      (distinctAfter ((distinct exact).map (·.id)) candidates) := by
  rw [merge_pair_nil]
  constructor
  · exact merge_pair exact candidates
  · exact distinctAfter_sublist _ _
  · exact distinctAfter_ids_nodup _ _
  · exact fun product hmem => id_not_mem_of_mem_distinctAfter hmem
  · exact fun candidate hmem =>
      id_mem_merge (List.mem_cons_of_mem _ (List.mem_singleton.mpr rfl)) hmem

namespace Results

/-!
## Matchers that are of no account
-/

theorem returned_of_isBare {matcher : Option Matcher} {reading : Reading} {catalog : Catalog}
    (h : forall m, matcher = some m -> forall text, (m text catalog).IsBare) :
    returned matcher reading catalog = [] := by
  unfold returned
  cases matcher with
  | none => rfl
  | some m =>
      cases matcherText? reading with
      | none => rfl
      | some text =>
          have hbare := h m rfl text
          cases hanswer : m text catalog with
          | candidates products =>
              rw [hanswer] at hbare
              cases hbare
              simp [hanswer]
          | nothing => simp [hanswer]
          | failed => simp [hanswer]

theorem proposed_of_id {reading : Reading} (h : reading.criteria.id.isSome = true)
    (matcher : Option Matcher) (catalog : Catalog) :
    proposed matcher reading catalog = ⟨[], []⟩ := by
  unfold proposed matcherText?
  rw [h, Bool.true_or, if_pos rfl]
  cases matcher <;> rfl

/-!
## Results with and without a matcher
-/

theorem ofRequest_products_of_relevance {catalog : Catalog} {query : List Char} {sort : Json}
    {options : SearchOptions}
    (horder : orderInEffect (SortKey.request sort).value options.applySortIntent
      (Reading.ofQuery query) = none) :
    (ofRequest catalog query sort options).value.products =
      Product.merge [
        Catalog.ranked (Reading.ofQuery query).criteria (options.refinement.narrow catalog),
        (returned options.matcher (Reading.ofQuery query)
          (options.refinement.narrow catalog)).filter (Reading.ofQuery query).criteria.admits] := by
  have hsorted : (ofRequest catalog query sort options).value.products =
      SortKey.sort (orderInEffect (SortKey.request sort).value options.applySortIntent
        (Reading.ofQuery query))
        (merged options.matcher (Reading.ofQuery query)
          (options.refinement.narrow catalog)).value := rfl
  rw [hsorted, horder, merged_value]
  rfl

theorem ofRequest_extends_exact {catalog : Catalog} {query : List Char} {sort : Json}
    {options : SearchOptions}
    (horder : orderInEffect (SortKey.request sort).value options.applySortIntent
      (Reading.ofQuery query) = none) :
    exists added : List Product,
      Extends (ofRequest catalog query sort { options with matcher := none }).value.products
        ((returned options.matcher (Reading.ofQuery query)
          (options.refinement.narrow catalog)).filter (Reading.ofQuery query).criteria.admits)
        (ofRequest catalog query sort options).value.products added := by
  have hexact : (ofRequest catalog query sort { options with matcher := none }).value.products =
      Product.merge [
        Catalog.ranked (Reading.ofQuery query).criteria (options.refinement.narrow catalog), []] :=
    ofRequest_products_of_relevance horder
  rw [hexact, ofRequest_products_of_relevance horder]
  exact ⟨_, Product.merge_extends _ _⟩

theorem ofRequest_value_of_isBare {catalog : Catalog} {options : SearchOptions}
    (hbare : forall m, options.matcher = some m ->
      forall text, (m text (options.refinement.narrow catalog)).IsBare)
    (query : List Char) (sort : Json) :
    (ofRequest catalog query sort options).value =
      (ofRequest catalog query sort { options with matcher := none }).value := by
  have hmerged : (merged options.matcher (Reading.ofQuery query)
        (options.refinement.narrow catalog)).value =
      (merged none (Reading.ofQuery query) (options.refinement.narrow catalog)).value := by
    rw [merged_value, merged_value, returned_of_isBare hbare]
    rfl
  show Results.mk _ (SortKey.sort _ _) = Results.mk _ (SortKey.sort _ _)
  rw [hmerged]

theorem ofRequest_of_id {query : List Char}
    (hid : (Reading.ofQuery query).criteria.id.isSome = true) (catalog : Catalog) (sort : Json)
    (options : SearchOptions) (other : Option Matcher) :
    ofRequest catalog query sort { options with matcher := other } =
      ofRequest catalog query sort options := by
  have hmerged : merged other (Reading.ofQuery query) (options.refinement.narrow catalog) =
      merged options.matcher (Reading.ofQuery query) (options.refinement.narrow catalog) := by
    unfold merged
    rw [proposed_of_id hid, proposed_of_id hid]
  unfold ofRequest ofQuery
  simp only [hmerged]

/-- What a matcher adds to the results of a query: candidates behind the exact results, and nothing
if it has none or an id is asked for. -/
theorem ofRequest_matcher_adds (catalog : Catalog) (query : List Char) (sort : Json)
    (options : SearchOptions) :
    (orderInEffect (SortKey.request sort).value options.applySortIntent
        (Reading.ofQuery query) = none ->
      exists added : List Product,
        Extends (ofRequest catalog query sort { options with matcher := none }).value.products
          ((returned options.matcher (Reading.ofQuery query)
            (options.refinement.narrow catalog)).filter (Reading.ofQuery query).criteria.admits)
          (ofRequest catalog query sort options).value.products added) ∧
      ((forall m, options.matcher = some m ->
          forall text, (m text (options.refinement.narrow catalog)).IsBare) ->
        (ofRequest catalog query sort options).value =
          (ofRequest catalog query sort { options with matcher := none }).value) ∧
      ((Reading.ofQuery query).criteria.id.isSome = true ->
        forall other : Option Matcher,
          ofRequest catalog query sort { options with matcher := other } =
            ofRequest catalog query sort options) :=
  ⟨ofRequest_extends_exact, fun hbare => ofRequest_value_of_isBare hbare query sort,
    fun hid => ofRequest_of_id hid catalog sort options⟩

def deskShelf : Catalog :=
  [{ id := "2", name := "Lantern" }, { id := "2", name := "Lantern, used" },
    { id := "1", name := "Desk lamp" }]

def failAlways : Matcher := fun _ _ => .failed

def proposingOptions : SearchOptions := { matcher := some proposeAll }

def failingOptions : SearchOptions := { matcher := some failAlways }

theorem ofRequest_matcher_adds_deskShelf :
    (orderInEffect (SortKey.request .null).value proposingOptions.applySortIntent
        (Reading.ofQuery "desk".toList) = none ∧
      exists added : List Product,
        Extends (ofRequest deskShelf "desk".toList .null
            { proposingOptions with matcher := none }).value.products
          ((returned proposingOptions.matcher (Reading.ofQuery "desk".toList)
            (proposingOptions.refinement.narrow deskShelf)).filter
              (Reading.ofQuery "desk".toList).criteria.admits)
          (ofRequest deskShelf "desk".toList .null proposingOptions).value.products added) ∧
      ((forall m, failingOptions.matcher = some m ->
          forall text, (m text (failingOptions.refinement.narrow deskShelf)).IsBare) ∧
        (ofRequest deskShelf "desk".toList .null failingOptions).value =
          (ofRequest deskShelf "desk".toList .null
            { failingOptions with matcher := none }).value) ∧
      ((Reading.ofQuery "id:1 desk".toList).criteria.id.isSome = true ∧
        forall other : Option Matcher,
          ofRequest deskShelf "id:1 desk".toList .null { proposingOptions with matcher := other } =
            ofRequest deskShelf "id:1 desk".toList .null proposingOptions) := by
  have horder : orderInEffect (SortKey.request .null).value proposingOptions.applySortIntent
      (Reading.ofQuery "desk".toList) = none := by decide +kernel
  have hbare : forall m, failingOptions.matcher = some m ->
      forall text, (m text (failingOptions.refinement.narrow deskShelf)).IsBare := by
    intro m hm text
    rw [← Option.some.inj hm]
    exact .failed
  have hid : (Reading.ofQuery "id:1 desk".toList).criteria.id.isSome = true := by decide +kernel
  exact
    ⟨⟨horder, (ofRequest_matcher_adds deskShelf "desk".toList .null proposingOptions).1 horder⟩,
      ⟨hbare, (ofRequest_matcher_adds deskShelf "desk".toList .null failingOptions).2.1 hbare⟩,
      ⟨hid, (ofRequest_matcher_adds deskShelf "id:1 desk".toList .null proposingOptions).2.2 hid⟩⟩

end Results

end CatalogSearch
