import CatalogSearch.Proofs.Catalog.RowByRow
import CatalogSearch.Proofs.Product.Revalidation
import CatalogSearch.Proofs.Query.PriceOnly
import CatalogSearch.Proofs.Results.Independence
import CatalogSearch.Proofs.Results.SortedResults

/-!
# Price bounds in a refinement and in a query

A refinement leaves products out before anything is scored, the price of a query while it is
scored.  Bounds mean the same in both places: the same products are scored alike, so that they
are ranked, sorted, put on pages and summed up alike.
-/

namespace CatalogSearch

open Text Pattern

/-!
## Bounds and conditions
-/

namespace Refinement

variable {low high : Binary64} {price : Option Binary64}

theorem priceAgrees_range (h : low.le high = true) :
    priceAgrees (some (.binary low)) (some (.binary high)) price =
      (PricePredicate.range low high).holds price := by
  cases price with
  | none => rfl
  | some price =>
      have hlow := (Binary64.le_iff.mp h).1
      show (!price.lt low && price.le high) = (low.le price && price.le high)
      cases hnan : price.isNaN with
      | true =>
          have hle : price.le high = false := by
            rw [Binary64.le, hnan]
            rfl
          rw [hle, Bool.and_false, Bool.and_false]
      | false => rw [Binary64.not_lt_eq_le hlow hnan]

theorem priceAgrees_atLeast (hlow : low.isNaN = false)
    (hprice : forall value : Binary64, price = some value -> value.isNaN = false) :
    priceAgrees (some (.binary low)) none price =
      (PricePredicate.compare .atLeast low).holds price := by
  cases price with
  | none => rfl
  | some price =>
      show (!price.lt low && true) = low.le price
      rw [Bool.and_true, Binary64.not_lt_eq_le hlow (hprice price rfl)]

theorem priceAgrees_atMost :
    priceAgrees none (some (.binary high)) price =
      (PricePredicate.compare .atMost high).holds price := by
  cases price with
  | none => rfl
  | some price => rfl

end Refinement

theorem Pattern.Digits.value_isNaN (digits : Digits) : digits.value.isNaN = false := by
  rcases IsNumeral.exists_size digits with ⟨size, hsize⟩
  rw [hsize]
  rfl

theorem PricePredicate.between_eq {low high : Digits} (h : low.value.le high.value = true) :
    between low.value high.value = range low.value high.value ∧
      between high.value low.value = range low.value high.value := by
  have hnot : high.value.lt low.value = false := by
    cases hlt : high.value.lt low.value with
    | false => rfl
    | true => exact absurd h (Binary64.not_le_of_lt hlt)
  unfold between
  rw [hnot]
  refine ⟨rfl, ?_⟩
  cases hlt : low.value.lt high.value with
  | true => rfl
  | false =>
      -- neither is less, so both are the one number at that place
      have hplace : low.value.place = high.value.place := by
        have hback := Binary64.le_of_not_lt high.value_isNaN low.value_isNaN hlt
        exact Int.le_antisymm (Binary64.le_iff.mp h).2.2 (Binary64.le_iff.mp hback).2.2
      rcases Digits.IsNumeral.exists_size low with ⟨size, hsize⟩
      rcases Digits.IsNumeral.exists_size high with ⟨size', hsize'⟩
      rw [hsize, hsize'] at hplace ⊢
      have hrank : size.rank = size'.rank := Int.ofNat.inj hplace
      cases size
      cases size'
      cases hrank
      rfl

namespace Criteria

theorem score?_price (condition : PricePredicate) (product : Product) :
    ({ price := some condition } : Criteria).score? product =
      if condition.holds product.price then ({} : Criteria).score? product else none := by
  have hadmits : ({ price := some condition } : Criteria).admitsPrice product =
      condition.holds product.price := rfl
  unfold score?
  rw [hadmits]
  cases condition.holds product.price <;> split <;> rfl

end Criteria

namespace Catalog

theorem scored_price {condition : PricePredicate} {keep : Product -> Bool} {catalog : Catalog}
    (h : forall product, product ∈ catalog -> keep product = condition.holds product.price) :
    scored { price := some condition } catalog = scored {} (catalog.filter keep) := by
  unfold scored
  rw [List.filterMap_filter]
  apply List.filterMap_congr
  intro product hmem
  rw [Criteria.score?_price, h product hmem]
  split <;> rfl

theorem ranked_price {condition : PricePredicate} {keep : Product -> Bool} {catalog : Catalog}
    (h : forall product, product ∈ catalog -> keep product = condition.holds product.price) :
    ranked { price := some condition } catalog = ranked {} (catalog.filter keep) := by
  rw [ranked, ranked, scored_price h]

end Catalog

/-!
## Prices of rows
-/

theorem Product.isNaN_of_readPrice {value : Json} {number : Binary64}
    (h : readPrice (some value) = .ok (some number)) : number.isNaN = false := by
  by_cases htext : exists text : String, value = .string text
  · rcases htext with ⟨text, rfl⟩
    rcases PriceLabel.readText_eq_some_iff.mp (Except.ok.inj h) with ⟨whole, fraction, _, rfl⟩
    exact Digits.value_isNaN ⟨whole, fraction⟩
  · exact Binary64.isNaN_eq_false_of_isFinite
      (isFinite_of_readPrice h fun text heq => htext ⟨text, heq⟩)

theorem Product.isNaN_of_ofRow {row : Json} {product : Product} {price : Binary64}
    (h : ofRow row = .ok product) (hprice : product.price = some price) :
    price.isNaN = false := by
  rcases ofRow_eq_ok h with ⟨members, _, hmembers⟩
  have hread := (ofMembers_eq_ok_iff.mp hmembers).1
  rw [hprice] at hread
  cases hmember : member? members ["price"] with
  | none =>
      rw [hmember] at hread
      cases hread
  | some value =>
      rw [hmember] at hread
      exact isNaN_of_readPrice hread

namespace Results

theorem haveNumericPrices_of_ofRows {rows : List Json} {catalog : Catalog}
    (h : (Catalog.ofRows rows).value = .ok catalog) : HaveNumericPrices catalog := by
  rw [Catalog.eq_validProducts_of_ofRows h]
  intro product hmem price hprice
  rcases Catalog.exists_row_of_mem_validProducts hmem with ⟨row, _, hrow⟩
  exact Product.isNaN_of_ofRow hrow hprice

/-!
## Results
-/

/-- Results that look the same on every page and list priced products only. -/
structure SamePricedPages (results results' : Results) : Prop where
  page : forall number size : Int, results'.page number size = results.page number size
  facets : results'.facets = results.facets
  priced : forall product, product ∈ results.products -> product.price.isSome = true
  priced' : forall product, product ∈ results'.products -> product.price.isSome = true

/-- The products for a query that asks for a price at most: no matcher is asked, as there are no
words, and no order is asked for. -/
theorem ofRequest_products_of_price {query : List Char} {price : Option PricePredicate}
    (h : Reading.ofQuery query = { criteria := { price := price } }) (catalog : Catalog)
    (sort : Json) (options : SearchOptions) :
    (ofRequest catalog query sort options).value.products =
      SortKey.sort (SortKey.request sort).value
        (Product.merge
          [Catalog.ranked { price := price } (options.refinement.narrow catalog), []]) := by
  have horder : orderInEffect (SortKey.request sort).value options.applySortIntent
      { criteria := { price := price } } = (SortKey.request sort).value := by
    unfold orderInEffect
    split <;> exact Option.or_none
  have hkeywords : Phrase.keywords [] = [] := by decide
  have htext : matcherText? { criteria := { price := price } } = none := by
    unfold matcherText? Reading.approximateText
    rw [hkeywords]
    rfl
  have hreturned : returned options.matcher { criteria := { price := price } }
      (options.refinement.narrow catalog) = [] := by
    unfold returned
    rw [htext]
    cases options.matcher <;> rfl
  rw [ofRequest_products, h, horder, mergedProducts, h, merged_value, hreturned, List.filter_nil]

theorem priced_of_mem_ranked {condition : PricePredicate} {catalog : Catalog} {product : Product}
    (h : product ∈ Catalog.ranked { price := some condition } catalog) :
    product.price.isSome = true := by
  have hscore := (Catalog.mem_ranked_iff.mp h).2
  rw [Criteria.score?_price] at hscore
  cases hprice : product.price with
  | some price => rfl
  | none =>
      rw [hprice] at hscore
      cases hscore

/-- A refinement that holds of the products whose prices meet a condition gives the results of the
query with the condition. -/
theorem ofRequest_samePricedPages {catalog : Catalog} {bounds : Refinement} {body : List Char}
    {condition : PricePredicate} (hbody : WritesAmounts body condition)
    (h : forall product, product ∈ catalog ->
      bounds.holds product = condition.holds product.price)
    (sort : Json) (options : SearchOptions) :
    SamePricedPages (ofRequest catalog [] sort { options with refinement := bounds }).value
      (ofRequest catalog ("price:".toList ++ body) sort
        { options with refinement := {} }).value := by
  have hrefined := ofRequest_products_of_price Reading.ofQuery_nil catalog sort
    { options with refinement := bounds }
  have hasked := ofRequest_products_of_price hbody.ofQuery_price catalog sort
    { options with refinement := {} }
  have hall : Refinement.narrow {} catalog = catalog := rfl
  have hsame : (ofRequest catalog ("price:".toList ++ body) sort
        { options with refinement := {} }).value.products =
      (ofRequest catalog [] sort { options with refinement := bounds }).value.products := by
    rw [hasked, hrefined, hall, Refinement.narrow_eq_filter, Catalog.ranked_price h]
  have hpriced : forall product, product ∈ (ofRequest catalog ("price:".toList ++ body) sort
      { options with refinement := {} }).value.products -> product.price.isSome = true := by
    intro product hmem
    rw [hasked, hall] at hmem
    rcases Product.mem_of_mem_merge ((SortKey.sort_perm _ _).mem_iff.mp hmem) with
      ⟨source, hsource, hproduct⟩
    rcases List.mem_cons.mp hsource with rfl | hlast
    · exact priced_of_mem_ranked hproduct
    · rw [List.mem_singleton.mp hlast] at hproduct
      cases hproduct
  constructor
  · intro number size
    rw [page, page, hsame]
  · rw [facets, facets, hsame]
  · intro product hmem
    rw [← hsame] at hmem
    exact hpriced product hmem
  · exact hpriced

/-- Price bounds give the same pages and facets in a refinement of the empty query and in the text
of a query: both bounds as a range with its amounts in either order, one bound as an inclusive
comparison.  The prices of a catalog must be numbers, as prices of rows are, where there is no upper
bound: a refinement leaves out what is below the lower bound and not what is nowhere. -/
theorem priceBounds_agree {low high : Amount} (hlow : low.digits.IsNumeral)
    (hhigh : high.digits.IsNumeral) (catalog : Catalog) (sort : Json) (options : SearchOptions) :
    (low.value.le high.value = true ->
        SamePricedPages
            (ofRequest catalog [] sort
              { options with refinement :=
                { minPrice := some (.binary low.value),
                  maxPrice := some (.binary high.value) } }).value
            (ofRequest catalog ("price:".toList ++ (low.text ++ '-' :: high.text)) sort
              { options with refinement := {} }).value ∧
          SamePricedPages
            (ofRequest catalog [] sort
              { options with refinement :=
                { minPrice := some (.binary low.value),
                  maxPrice := some (.binary high.value) } }).value
            (ofRequest catalog ("price:".toList ++ (high.text ++ '-' :: low.text)) sort
              { options with refinement := {} }).value) ∧
      (HaveNumericPrices catalog ->
        SamePricedPages
          (ofRequest catalog [] sort
            { options with refinement := { minPrice := some (.binary low.value) } }).value
          (ofRequest catalog ("price:".toList ++ (">=".toList ++ low.text)) sort
            { options with refinement := {} }).value) ∧
      SamePricedPages
        (ofRequest catalog [] sort
          { options with refinement := { maxPrice := some (.binary high.value) } }).value
        (ofRequest catalog ("price:".toList ++ ("<=".toList ++ high.text)) sort
          { options with refinement := {} }).value := by
  refine ⟨?_, ?_, ?_⟩
  · intro hle
    have hbetween : PricePredicate.between low.value high.value = .range low.value high.value ∧
        PricePredicate.between high.value low.value = .range low.value high.value :=
      PricePredicate.between_eq hle
    constructor
    · refine ofRequest_samePricedPages (.range hlow hhigh) ?_ sort options
      intro product _
      rw [hbetween.1]
      exact Refinement.priceAgrees_range hle
    · refine ofRequest_samePricedPages (.range hhigh hlow) ?_ sort options
      intro product _
      rw [hbetween.2]
      exact Refinement.priceAgrees_range hle
  · intro hnumeric
    refine ofRequest_samePricedPages (.comparison .atLeast hlow) ?_ sort options
    intro product hmem
    exact Refinement.priceAgrees_atLeast low.digits.value_isNaN (hnumeric product hmem)
  · refine ofRequest_samePricedPages (.comparison .atMost hhigh) ?_ sort options
    intro product _
    exact Refinement.priceAgrees_atMost

def twicePricedLamp : Catalog :=
  [{ id := "1", name := "Lamp", price := some (.ofNat 60) }, { id := "2", name := "Desk lamp" },
    { id := "1", name := "Lamp", price := some (.ofNat 20) },
    { id := "3", name := "Shelf", price := some (.ofNat 5) }]

theorem priceBounds_agree_twicePricedLamp :
    HaveNumericPrices twicePricedLamp ∧
      SamePricedPages
        (ofRequest twicePricedLamp [] .null
          { refinement := { minPrice := some (.binary (.ofNat 5)),
                            maxPrice := some (.binary (.ofNat 50)) } }).value
        (ofRequest twicePricedLamp "price:$50-5.00".toList .null {}).value ∧
      SamePricedPages
        (ofRequest twicePricedLamp [] .null
          { refinement := { minPrice := some (.binary (.ofNat 5)) } }).value
        (ofRequest twicePricedLamp "price:>=5.00".toList .null {}).value := by
  have hnumeric : HaveNumericPrices twicePricedLamp := by
    intro product hmem price hprice
    simp only [twicePricedLamp, List.mem_cons, List.not_mem_nil, or_false] at hmem
    rcases hmem with rfl | rfl | rfl | rfl <;> cases hprice <;> decide
  have hwhole : "5".toList.all isDigit = true ∧ "50".toList.all isDigit = true := by decide
  have hfraction : "00".toList.all isDigit = true := by decide
  have hlow : Digits.IsNumeral ⟨"5".toList, "00".toList⟩ :=
    ⟨by decide, List.all_eq_true.mp hwhole.1, List.all_eq_true.mp hfraction, by decide⟩
  have hhigh : Digits.IsNumeral ⟨"50".toList, []⟩ :=
    ⟨by decide, List.all_eq_true.mp hwhole.2, nofun, by decide⟩
  have hagree := @priceBounds_agree ⟨false, ⟨"5".toList, "00".toList⟩⟩ ⟨true, ⟨"50".toList, []⟩⟩
    hlow hhigh twicePricedLamp .null {}
  have hlowValue : (Digits.mk "5".toList "00".toList).value = .ofNat 5 := by decide +kernel
  have hhighValue : (Digits.mk "50".toList []).value = .ofNat 50 := by decide +kernel
  simp only [Amount.value, hlowValue, hhighValue] at hagree
  exact ⟨hnumeric, (hagree.1 (by decide +kernel)).2, hagree.2.1 hnumeric⟩

end Results

end CatalogSearch
