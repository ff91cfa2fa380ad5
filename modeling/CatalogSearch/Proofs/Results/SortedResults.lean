import CatalogSearch.Proofs.Results.Selection
import CatalogSearch.Proofs.Results.StableSort
import CatalogSearch.Proofs.Results.Summary

/-!
# Results in the order in effect

The results of a query are the merged products, sorted by the order in effect
so that products with one key stay as they came.  Nothing but the order depends
on what is asked for: the products, their number and the facets do not.
-/

namespace CatalogSearch

/-!
## Orders

An order is described by what may stand in front of what, and by which products
have one key.
-/

def samePrice : Option Binary64 -> Option Binary64 -> Bool
  | some a, some b => a.equals b
  | none, none => true
  | _, _ => false

def PricesInOrder (ahead : Binary64 -> Binary64 -> Bool) :
    Option Binary64 -> Option Binary64 -> Prop
  | some a, some b => ahead b a = false
  | some _, none => True
  | none, none => True
  | none, some _ => False

namespace SortKey

def InOrder : SortKey -> Product -> Product -> Prop
  | name, a, b => a.name ≤ b.name
  | id, a, b => a.id ≤ b.id
  | priceAscending, a, b => PricesInOrder (fun x y => x.lt y) a.price b.price
  | priceDescending, a, b => PricesInOrder (fun x y => y.lt x) a.price b.price

def sameKey : SortKey -> Product -> Product -> Bool
  | name, a, b => a.name == b.name
  | id, a, b => a.id == b.id
  | priceAscending, a, b => samePrice a.price b.price
  | priceDescending, a, b => samePrice a.price b.price

end SortKey

/-- Products of a list in an order, those with one key as they were in the list. -/
structure SortedFrom (key : SortKey) (products listed : List Product) : Prop where
  perm : listed.Perm products
  inOrder : listed.Pairwise key.InOrder
  stable : forall product : Product,
    listed.filter (key.sameKey product) = products.filter (key.sameKey product)

def HaveNumericPrices (products : List Product) : Prop :=
  forall product, product ∈ products ->
    forall price, product.price = some price -> price.isNaN = false

/-- The order that is in effect: the one asked for explicitly, or else that of a price intent if
intents count. -/
inductive InEffect (explicit : Option SortKey) (applySortIntent : Bool)
    (intent : Option SortIntent) : Option SortKey -> Prop
  | explicit {key : SortKey} :
      explicit = some key -> InEffect explicit applySortIntent intent (some key)
  | priceLow :
      explicit = none -> applySortIntent = true -> intent = some .priceLow ->
      InEffect explicit applySortIntent intent (some .priceAscending)
  | priceHigh :
      explicit = none -> applySortIntent = true -> intent = some .priceHigh ->
      InEffect explicit applySortIntent intent (some .priceDescending)
  | merged :
      explicit = none ->
      (applySortIntent = true -> intent ≠ some .priceLow ∧ intent ≠ some .priceHigh) ->
      InEffect explicit applySortIntent intent none

theorem inEffect_orderInEffect (explicit : Option SortKey) (applySortIntent : Bool)
    (reading : Reading) :
    InEffect explicit applySortIntent reading.criteria.sort
      (Results.orderInEffect explicit applySortIntent reading) := by
  unfold Results.orderInEffect
  cases explicit with
  | some key => exact .explicit rfl
  | none =>
      rw [Option.none_or]
      cases applySortIntent with
      | false => exact .merged rfl (fun h => absurd h Bool.false_ne_true)
      | true =>
          cases hintent : reading.criteria.sort with
          | none => exact .merged rfl (fun _ => ⟨nofun, nofun⟩)
          | some intent =>
              cases intent with
              | priceLow => exact .priceLow rfl rfl rfl
              | priceHigh => exact .priceHigh rfl rfl rfl
              | rating => exact .merged rfl (fun _ => ⟨nofun, nofun⟩)
              | newest => exact .merged rfl (fun _ => ⟨nofun, nofun⟩)
              | relevance => exact .merged rfl (fun _ => ⟨nofun, nofun⟩)

/-!
## Sorting
-/

theorem lt_eq_false_of_place_le {x y : Binary64} (h : x.place ≤ y.place) :
    y.lt x = false := by
  cases hlt : y.lt x with
  | false => rfl
  | true => exact absurd (Binary64.lt_iff.mp hlt).2.2 (Int.not_lt.mpr h)

theorem pricesInOrder_of_priceLe {a b : Option Binary64} (h : Scored.priceLe a b = true) :
    PricesInOrder (fun x y => x.lt y) a b := by
  cases a with
  | none =>
      cases b with
      | none => trivial
      | some y => cases h
  | some x =>
      cases b with
      | none => trivial
      | some y => exact lt_eq_false_of_place_le (of_decide_eq_true h)

theorem pricesInOrder_of_priceGe {a b : Option Binary64} (h : SortKey.priceGe a b = true) :
    PricesInOrder (fun x y => y.lt x) a b := by
  cases a with
  | none =>
      cases b with
      | none => trivial
      | some y => cases h
  | some x =>
      cases b with
      | none => trivial
      | some y => exact lt_eq_false_of_place_le (of_decide_eq_true h)

theorem priceLe_of_samePrice {a b : Option Binary64} (h : samePrice a b = true) :
    (Scored.priceLe a b = true ∧ Scored.priceLe b a = true) ∧
      SortKey.priceGe a b = true ∧ SortKey.priceGe b a = true := by
  cases a with
  | none =>
      cases b with
      | none => exact ⟨⟨rfl, rfl⟩, rfl, rfl⟩
      | some y => cases h
  | some x =>
      cases b with
      | none => cases h
      | some y =>
          have hplace := (Binary64.equals_iff.mp h).2.2
          have hle := decide_eq_true (Int.le_of_eq hplace)
          have hge := decide_eq_true (Int.le_of_eq hplace.symm)
          exact ⟨⟨hle, hge⟩, hge, hle⟩

theorem place_eq_of_not_lt {x y : Binary64} (hx : x.isNaN = false) (hy : y.isNaN = false)
    (h : x.lt y = false) (h' : y.lt x = false) : x.place = y.place :=
  Int.le_antisymm (Binary64.le_iff.mp (Binary64.le_of_not_lt hx hy h')).2.2
    (Binary64.le_iff.mp (Binary64.le_of_not_lt hy hx h)).2.2

theorem samePrice_of_inOrder {ahead : Binary64 -> Binary64 -> Bool}
    (htie : forall x y, x.isNaN = false -> y.isNaN = false -> ahead x y = false ->
      ahead y x = false -> x.place = y.place)
    {a b : Option Binary64} (ha : forall x, a = some x -> x.isNaN = false)
    (hb : forall y, b = some y -> y.isNaN = false) (h : PricesInOrder ahead a b)
    (h' : PricesInOrder ahead b a) :
    samePrice a b = true := by
  cases a with
  | none =>
      cases b with
      | none => rfl
      | some y => exact h.elim
  | some x =>
      cases b with
      | none => exact h'.elim
      | some y =>
          exact Binary64.equals_iff.mpr ⟨ha x rfl, hb y rfl, htie x y (ha x rfl) (hb y rfl) h' h⟩

namespace SortKey

theorem inOrder_of_before {key : SortKey} {a b : Product} (h : key.before a b = true) :
    key.InOrder a b := by
  cases key with
  | name =>
      show a.name ≤ b.name
      exact of_decide_eq_true h
  | id =>
      show a.id ≤ b.id
      exact of_decide_eq_true h
  | priceAscending => exact pricesInOrder_of_priceLe h
  | priceDescending => exact pricesInOrder_of_priceGe h

theorem before_of_sameKey {key : SortKey} {a b : Product} (h : key.sameKey a b = true) :
    key.before a b = true ∧ key.before b a = true := by
  cases key with
  | name =>
      have heq : a.name = b.name := beq_iff_eq.mp h
      exact ⟨decide_eq_true (heq ▸ String.le_refl _), decide_eq_true (heq ▸ String.le_refl _)⟩
  | id =>
      have heq : a.id = b.id := beq_iff_eq.mp h
      exact ⟨decide_eq_true (heq ▸ String.le_refl _), decide_eq_true (heq ▸ String.le_refl _)⟩
  | priceAscending => exact (priceLe_of_samePrice h).1
  | priceDescending => exact (priceLe_of_samePrice h).2

theorem mergeSort_sameKey (key : SortKey) (product : Product) (products : List Product) :
    (products.filter (key.sameKey product)).mergeSort key.before =
      products.filter (key.sameKey product) := by
  apply List.mergeSort_of_pairwise
  apply List.pairwise_of_forall_mem_list
  intro a ha b hb
  have hfirst := before_of_sameKey (List.mem_filter.mp ha).2
  have hsecond := before_of_sameKey (List.mem_filter.mp hb).2
  exact key.before_totalPreorder.trans a product b hfirst.2 hsecond.1

theorem sort_sortedFrom (key : SortKey) (products : List Product) :
    SortedFrom key products (sort (some key) products) := by
  constructor
  · exact sort_perm (some key) products
  · have hsorted : (products.mergeSort key.before).Pairwise fun a b => key.before a b = true :=
      List.pairwise_mergeSort key.before_totalPreorder.trans key.before_totalPreorder.total products
    exact hsorted.imp fun h => inOrder_of_before h
  · intro product
    rw [filter_sort]
    exact mergeSort_sameKey key product products

end SortKey

/-!
## One sorted list

Two sorted lists with the same products of every key are the same: each begins
with a product that the other may not have behind its own first one.
-/

theorem first_eq_of_sorted {α : Type} {inOrder : α -> α -> Prop} {same : α -> α -> Bool}
    {a b : α} {list other : List α} (ha : same a a = true) (hb : same b b = true)
    (hsame : inOrder a b -> inOrder b a -> same a b = true)
    (hlist : (a :: list).Pairwise inOrder) (hother : (b :: other).Pairwise inOrder)
    (h : forall c, (a :: list).filter (same c) = (b :: other).filter (same c)) :
    a = b := by
  have hinOther : a ∈ b :: other := by
    have hmem : a ∈ (a :: list).filter (same a) :=
      List.mem_filter.mpr ⟨List.mem_cons_self, ha⟩
    rw [h a] at hmem
    exact (List.mem_filter.mp hmem).1
  have hinList : b ∈ a :: list := by
    have hmem : b ∈ (b :: other).filter (same b) :=
      List.mem_filter.mpr ⟨List.mem_cons_self, hb⟩
    rw [← h b] at hmem
    exact (List.mem_filter.mp hmem).1
  rcases List.mem_cons.mp hinOther with heq | hbehindB
  · exact heq
  · rcases List.mem_cons.mp hinList with heq | hbehindA
    · exact heq.symm
    · have htie := hsame ((List.pairwise_cons.mp hlist).1 b hbehindA)
        ((List.pairwise_cons.mp hother).1 a hbehindB)
      have hheads := h a
      rw [List.filter_cons_of_pos ha, List.filter_cons_of_pos htie] at hheads
      exact (List.cons.inj hheads).1

theorem eq_of_sorted {α : Type} {inOrder : α -> α -> Prop} {same : α -> α -> Bool}
    {list other : List α} (hself : forall a, a ∈ list ++ other -> same a a = true)
    (hsame : forall a b, a ∈ list ++ other -> b ∈ list ++ other -> inOrder a b -> inOrder b a ->
      same a b = true)
    (hlist : list.Pairwise inOrder) (hother : other.Pairwise inOrder)
    (h : forall a, list.filter (same a) = other.filter (same a)) :
    list = other := by
  induction list generalizing other with
  | nil =>
      cases other with
      | nil => rfl
      | cons b other =>
          have hb := h b
          rw [List.filter_nil, List.filter_cons_of_pos (hself b List.mem_cons_self)] at hb
          cases hb
  | cons a list ih =>
      have ha := hself a List.mem_cons_self
      cases other with
      | nil =>
          have hnil := h a
          rw [List.filter_nil, List.filter_cons_of_pos ha] at hnil
          cases hnil
      | cons b other =>
          have hmemB : b ∈ (a :: list) ++ b :: other :=
            List.mem_append_right _ List.mem_cons_self
          have hfirst := first_eq_of_sorted ha (hself b hmemB)
            (hsame a b List.mem_cons_self hmemB) hlist hother h
          subst hfirst
          congr 1
          have hsub : forall {c : α}, c ∈ list ++ other -> c ∈ (a :: list) ++ a :: other := by
            intro c hmem
            rcases List.mem_append.mp hmem with hmem | hmem
            · exact List.mem_append_left _ (List.mem_cons_of_mem a hmem)
            · exact List.mem_append_right _ (List.mem_cons_of_mem a hmem)
          apply ih (fun c hc => hself c (hsub hc))
            (fun c d hc hd => hsame c d (hsub hc) (hsub hd))
            (List.pairwise_cons.mp hlist).2 (List.pairwise_cons.mp hother).2
          intro c
          have hc := h c
          rw [List.filter_cons, List.filter_cons] at hc
          split at hc
          · exact (List.cons.inj hc).2
          · exact hc

theorem samePrice_self {price : Option Binary64}
    (h : forall x, price = some x -> x.isNaN = false) :
    samePrice price price = true := by
  cases price with
  | none => rfl
  | some x => exact Binary64.equals_iff.mpr ⟨h x rfl, h x rfl, rfl⟩

/-- Only one list is sorted from products whose prices are numbers. -/
theorem SortedFrom.unique {key : SortKey} {products listed other : List Product}
    (hnumeric : HaveNumericPrices products) (h : SortedFrom key products listed)
    (h' : SortedFrom key products other) :
    other = listed := by
  have hnumber : forall product, product ∈ other ++ listed -> forall price,
      product.price = some price -> price.isNaN = false := by
    intro product hmem
    rcases List.mem_append.mp hmem with hmem | hmem
    · exact hnumeric product (h'.perm.mem_iff.mp hmem)
    · exact hnumeric product (h.perm.mem_iff.mp hmem)
  refine eq_of_sorted ?_ ?_ h'.inOrder h.inOrder
    (fun product => (h'.stable product).trans (h.stable product).symm)
  · intro product hmem
    cases key with
    | name => exact beq_self_eq_true _
    | id => exact beq_self_eq_true _
    | priceAscending => exact samePrice_self (hnumber product hmem)
    | priceDescending => exact samePrice_self (hnumber product hmem)
  · intro a b ha hb hab hba
    cases key with
    | name => exact beq_iff_eq.mpr (String.le_antisymm hab hba)
    | id => exact beq_iff_eq.mpr (String.le_antisymm hab hba)
    | priceAscending =>
        exact samePrice_of_inOrder (fun _ _ => place_eq_of_not_lt) (hnumber a ha) (hnumber b hb)
          hab hba
    | priceDescending =>
        exact samePrice_of_inOrder (fun _ _ hx hy hxy hyx => place_eq_of_not_lt hx hy hyx hxy)
          (hnumber a ha) (hnumber b hb) hab hba

/-!
## What the order does not change
-/

theorem ListsNames.unique {names names' : List String} {values values' : List (Option String)}
    (hvalues : values.Perm values') (h : ListsNames names values)
    (h' : ListsNames names' values') :
    names = names' := by
  have hperm : names.Perm names' := by
    apply (List.perm_ext_iff_of_nodup (h.increasing.imp fun hlt => Std.ne_of_lt hlt)
      (h'.increasing.imp fun hlt => Std.ne_of_lt hlt)).mpr
    intro name
    rw [h.mem_iff, h'.mem_iff, hvalues.mem_iff]
  apply List.Perm.eq_of_pairwise _ h.increasing h'.increasing hperm
  intro a b _ _ hab hba
  exact absurd hba (String.lt_asymm hab)

theorem IsEnd.agree {lt le : Binary64 -> Binary64 -> Bool}
    (hantisymm : forall x y, le x y = true -> le y x = true -> x.equals y = true)
    {prices prices' : List Binary64} {extreme extreme' : Option Binary64}
    (hperm : prices.Perm prices') (hnumbers : forall price, price ∈ prices -> price.isNaN = false)
    (h : IsEnd lt le prices extreme) (h' : IsEnd lt le prices' extreme') :
    samePrice extreme extreme' = true := by
  have hnumbers' : forall price, price ∈ prices' -> price.isNaN = false :=
    fun price hmem => hnumbers price (hperm.mem_iff.mpr hmem)
  cases extreme with
  | none =>
      have hnil : prices' = [] := (h.none_iff.mp rfl ▸ hperm).nil_eq.symm
      rw [h'.none_iff.mpr hnil]
      rfl
  | some price =>
      cases extreme' with
      | none =>
          have hnil : prices = [] := (h'.none_iff.mp rfl ▸ hperm.symm).nil_eq.symm
          cases h.none_iff.mpr hnil
      | some price' =>
          apply hantisymm
          · exact h.le price rfl hnumbers price' (hperm.mem_iff.mpr (h'.mem price' rfl))
          · exact h'.le price' rfl hnumbers' price (hperm.mem_iff.mp (h.mem price rfl))

theorem equals_of_le {x y : Binary64} (hxy : x.le y = true) (hyx : y.le x = true) :
    x.equals y = true := by
  rcases Binary64.le_iff.mp hxy with ⟨hx, hy, hplace⟩
  exact Binary64.equals_iff.mpr ⟨hx, hy, Int.le_antisymm hplace (Binary64.le_iff.mp hyx).2.2⟩

structure Facets.Agree (facets facets' : Facets) : Prop where
  brands : facets.brands = facets'.brands
  categories : facets.categories = facets'.categories
  minPrice : samePrice facets.minPrice facets'.minPrice = true
  maxPrice : samePrice facets.maxPrice facets'.maxPrice = true

theorem numeric_of_haveNumericPrices {products : List Product} (h : HaveNumericPrices products) :
    forall price, price ∈ products.filterMap (·.price) -> price.isNaN = false := by
  intro price hmem
  rcases List.mem_filterMap.mp hmem with ⟨product, hproduct, hprice⟩
  exact h product hproduct price hprice

theorem Facets.ofList_agree {products products' : List Product} (hperm : products.Perm products')
    (hnumeric : HaveNumericPrices products) :
    (ofList products).Agree (ofList products') := by
  have h := ofList_summarizes products
  have h' := ofList_summarizes products'
  have hprices := hperm.filterMap (·.price)
  have hnumbers := numeric_of_haveNumericPrices hnumeric
  constructor
  · exact ListsNames.unique (hperm.map _) h.brands h'.brands
  · exact ListsNames.unique (hperm.map _) h.categories h'.categories
  · exact IsEnd.agree (fun _ _ => equals_of_le) hprices hnumbers h.minPrice h'.minPrice
  · exact IsEnd.agree (fun _ _ hyx hxy => equals_of_le hxy hyx) hprices hnumbers h.maxPrice
      h'.maxPrice

namespace Results

def mergedProducts (catalog : Catalog) (query : List Char) (options : SearchOptions) :
    List Product :=
  (merged options.matcher (Reading.ofQuery query) (options.refinement.narrow catalog)).value

structure SameButOrder (results results' : Results) : Prop where
  reading : results'.reading = results.reading
  perm : results'.products.Perm results.products
  total : forall page size page' size' : Int,
    (results'.page page' size').total = (results.page page size).total
  facets : HaveNumericPrices results.products -> results'.facets.Agree results.facets

/-- Products in the order in effect, among lists of which only one is in it. -/
structure OrderedAsAsked (catalog : Catalog) (query : List Char) (sort : Json)
    (options : SearchOptions) (products : List Product) : Prop where
  inEffect : exists order : Option SortKey,
    InEffect (SortKey.request sort).value options.applySortIntent
        (Reading.ofQuery query).criteria.sort order ∧
      (order = none -> products = mergedProducts catalog query options) ∧
      (forall key : SortKey, order = some key ->
        SortedFrom key (mergedProducts catalog query options) products ∧
          (HaveNumericPrices (mergedProducts catalog query options) ->
            forall listed : List Product,
              SortedFrom key (mergedProducts catalog query options) listed -> listed = products))

theorem ofRequest_products (catalog : Catalog) (query : List Char) (sort : Json)
    (options : SearchOptions) :
    (ofRequest catalog query sort options).value.products =
      SortKey.sort (orderInEffect (SortKey.request sort).value options.applySortIntent
        (Reading.ofQuery query)) (mergedProducts catalog query options) := by
  rfl

theorem ofRequest_orderedAsAsked (catalog : Catalog) (query : List Char) (sort : Json)
    (options : SearchOptions) :
    OrderedAsAsked catalog query sort options
      (ofRequest catalog query sort options).value.products := by
  constructor
  rw [ofRequest_products]
  refine ⟨_, inEffect_orderInEffect _ _ _, ?_, ?_⟩
  · intro hnone
    rw [hnone]
    rfl
  · intro key hkey
    rw [hkey]
    have hsorted := key.sort_sortedFrom (mergedProducts catalog query options)
    exact ⟨hsorted, fun hnumeric listed hlisted => hsorted.unique hnumeric hlisted⟩

theorem ofRequest_sameButOrder (catalog : Catalog) (query : List Char) (sort sort' : Json)
    (options : SearchOptions) (applySortIntent' : Bool) :
    SameButOrder (ofRequest catalog query sort options).value
      (ofRequest catalog query sort'
        { options with applySortIntent := applySortIntent' }).value := by
  have hperm : (ofRequest catalog query sort'
        { options with applySortIntent := applySortIntent' }).value.products.Perm
      (ofRequest catalog query sort options).value.products := by
    rw [ofRequest_products, ofRequest_products]
    exact (SortKey.sort_perm _ _).trans (SortKey.sort_perm _ _).symm
  constructor
  · rfl
  · exact hperm
  · intro page size page' size'
    exact hperm.length_eq
  · intro hnumeric
    apply Facets.ofList_agree hperm
    intro product hmem
    exact hnumeric product (hperm.mem_iff.mp hmem)

theorem ofRequest_explicit (catalog : Catalog) (query : List Char) {sort : Json} {key : SortKey}
    (options : SearchOptions) (applySortIntent' : Bool)
    (hexplicit : (SortKey.request sort).value = some key) :
    ofRequest catalog query sort { options with applySortIntent := applySortIntent' } =
      ofRequest catalog query sort options := by
  simp only [ofRequest, ofQuery, orderInEffect, hexplicit, Option.some_or]

/-- Results are the merged products in the order in effect.  Another order or another use of the
intent changes their order only, and an intent counts for nothing beside an explicit order. -/
theorem ofRequest_ordered (catalog : Catalog) (query : List Char) (sort : Json)
    (options : SearchOptions) :
    OrderedAsAsked catalog query sort options
        (ofRequest catalog query sort options).value.products ∧
      (forall (sort' : Json) (applySortIntent' : Bool),
        SameButOrder (ofRequest catalog query sort options).value
          (ofRequest catalog query sort'
            { options with applySortIntent := applySortIntent' }).value) ∧
      (forall (key : SortKey) (applySortIntent' : Bool),
        (SortKey.request sort).value = some key ->
          ofRequest catalog query sort { options with applySortIntent := applySortIntent' } =
            ofRequest catalog query sort options) := by
  refine ⟨ofRequest_orderedAsAsked catalog query sort options, ?_, ?_⟩
  · intro sort' applySortIntent'
    exact ofRequest_sameButOrder catalog query sort sort' options applySortIntent'
  · intro key applySortIntent' hexplicit
    exact ofRequest_explicit catalog query options applySortIntent' hexplicit

def pricedShelf : Catalog :=
  [{ id := "1", name := "Desk lamp" }, { id := "2", name := "Lamp", price := some (.ofNat 20) },
    { id := "3", name := "Floor lamp", price := some (.ofNat 30) }]

theorem mergedProducts_numeric {catalog : Catalog} (query : List Char) (refinement : Refinement)
    (h : HaveNumericPrices catalog) :
    HaveNumericPrices (mergedProducts catalog query { refinement := refinement }) := by
  intro product hmem
  have hselects := @merged_selects none (Reading.ofQuery query) refinement catalog nofun
  exact h product (hselects.sound product hmem).1

theorem ofRequest_ordered_pricedShelf :
    (SortKey.request (.string " Price_DESC ")).value = some .priceDescending ∧
      HaveNumericPrices (mergedProducts pricedShelf "cheapest lamp".toList {}) ∧
      ofRequest pricedShelf "cheapest lamp".toList (.string " Price_DESC ")
          { applySortIntent := false } =
        ofRequest pricedShelf "cheapest lamp".toList (.string " Price_DESC ") {} := by
  have hexplicit : (SortKey.request (.string " Price_DESC ")).value = some .priceDescending := by
    decide
  have hnumeric : HaveNumericPrices pricedShelf := by
    intro product hmem price hprice
    simp only [pricedShelf, List.mem_cons, List.not_mem_nil, or_false] at hmem
    rcases hmem with rfl | rfl | rfl <;> cases hprice <;> decide
  have hordered := ofRequest_ordered pricedShelf "cheapest lamp".toList
    (.string " Price_DESC ") {}
  exact ⟨hexplicit, mergedProducts_numeric _ {} hnumeric, hordered.2.2 _ false hexplicit⟩

end Results

end CatalogSearch
