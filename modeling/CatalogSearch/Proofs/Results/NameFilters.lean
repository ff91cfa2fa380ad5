import CatalogSearch.Proofs.Results.Selection
import CatalogSearch.Proofs.Text.FoldedEnds

/-!
# Brands and categories that are asked for

A refinement with a brand lists only products of that brand, as long as there is
something left of the brand when it is trimmed.  A brand of white space alone is
no empty text, so it is asked for; but it is compared as the empty one, and a
product without a brand is compared as one with the empty brand.  What is listed
then is what has no brand.  The same goes for categories.
-/

namespace CatalogSearch

open Text

namespace Refinement

/-!
## One product
-/

/-- Whether a product has a name of its own, and it is the one asked for but for letter case and
white space around it. -/
def Bears (wanted : String) (own : Option String) : Prop :=
  exists name : String, own = some name ∧ name ≠ "" ∧ SameName wanted.toList name.toList

variable {wanted : String} {own : Option String}

theorem nameAgrees_iff (hwanted : wanted ≠ "") :
    nameAgrees (some wanted) own = true <->
      foldCase (own.getD "").toList = foldCase (strip wanted.toList) := by
  simp [nameAgrees, hwanted]

theorem bears_of_nameAgrees (hsolid : strip wanted.toList ≠ [])
    (h : nameAgrees (some wanted) own = true) : Bears wanted own := by
  have hwanted : wanted ≠ "" := by
    rintro rfl
    exact hsolid rfl
  have hfold := (nameAgrees_iff hwanted).mp h
  have hnamed : own.getD "" ≠ "" := by
    intro hempty
    rw [hempty] at hfold
    exact hsolid (foldCase_eq_nil_iff.mp hfold.symm)
  cases own with
  | none => exact absurd rfl hnamed
  | some name => exact ⟨name, rfl, hnamed, sameName_of_foldCase hfold⟩

theorem nameless_of_nameAgrees (hwanted : wanted ≠ "") (hblank : strip wanted.toList = [])
    (h : nameAgrees (some wanted) own = true) : own.getD "" = "" := by
  have hfold := (nameAgrees_iff hwanted).mp h
  rw [hblank] at hfold
  exact String.toList_eq_nil_iff.mp (foldCase_eq_nil_iff.mp hfold)

theorem bears_iff_of_nameAgrees (hwanted : wanted ≠ "")
    (h : nameAgrees (some wanted) own = true) :
    Bears wanted own <-> strip wanted.toList ≠ [] := by
  constructor
  · rintro ⟨name, rfl, hnamed, _⟩ hblank
    exact hnamed (nameless_of_nameAgrees hwanted hblank h)
  · intro hsolid
    exact bears_of_nameAgrees hsolid h

end Refinement

namespace Results

open Refinement

/-!
## Results
-/

theorem exists_mem_page_iff {results : Results} {product : Product} :
    (exists page size : Int, product ∈ (results.page page size).items) <->
      product ∈ results.products := by
  constructor
  · rintro ⟨page, size, hmem⟩
    exact List.mem_of_mem_drop (List.mem_of_mem_take hmem)
  · intro hmem
    -- one page is long enough for all products
    refine ⟨((0 : Nat) : Int) + 1, results.products.length, ?_⟩
    rw [Results.page, Page.ofList_succ_items, Nat.zero_mul, List.drop_zero, List.take_of_length_le]
    · exact hmem
    · rw [Page.atLeastOne, Int.toNat_natCast]
      exact Nat.le_max_left _ _

theorem holds_of_mem_products {catalog : Catalog} {query : List Char} {sort : Json}
    {options : SearchOptions} {product : Product}
    (hmatcher : forall m, options.matcher = some m -> DrawsFromCatalog m)
    (h : product ∈ (ofRequest catalog query sort options).value.products) :
    options.refinement.holds product = true :=
  ((products_selects catalog query sort options hmatcher).sound product h).2.2.1

/-- Whether every product on every page bears a name. -/
def ListsOnlyBearers (results : Results) (own : Product -> Option String) (wanted : String) :
    Prop :=
  forall (page size : Int) (product : Product),
    product ∈ (results.page page size).items -> Bears wanted (own product)

theorem listsOnlyBearers_iff {results : Results} {own : Product -> Option String}
    {wanted : String} (hwanted : wanted ≠ "")
    (hagrees : forall product, product ∈ results.products ->
      nameAgrees (some wanted) (own product) = true) :
    ListsOnlyBearers results own wanted <->
      strip wanted.toList ≠ [] ∨ results.products = [] := by
  have hproducts : ListsOnlyBearers results own wanted <->
      forall product, product ∈ results.products -> strip wanted.toList ≠ [] := by
    constructor
    · intro h product hmem
      rcases exists_mem_page_iff.mpr hmem with ⟨page, size, hlisted⟩
      exact (bears_iff_of_nameAgrees hwanted (hagrees product hmem)).mp
        (h page size product hlisted)
    · intro h page size product hlisted
      have hmem := exists_mem_page_iff.mp ⟨page, size, hlisted⟩
      exact (bears_iff_of_nameAgrees hwanted (hagrees product hmem)).mpr (h product hmem)
  rw [hproducts]
  constructor
  · intro h
    cases hlist : results.products with
    | nil => exact Or.inr rfl
    | cons first rest => exact Or.inl (h first (hlist ▸ List.mem_cons_self))
  · rintro (hsolid | hnone) product hmem
    · exact hsolid
    · rw [hnone] at hmem
      cases hmem

/-- A brand or category that is asked for is borne by every product on every page, exactly if it is
not all white space or nothing is listed. -/
theorem namedProducts_iff (catalog : Catalog) (query : List Char) (sort : Json)
    (options : SearchOptions)
    (hmatcher : forall m, options.matcher = some m -> DrawsFromCatalog m) :
    (forall wanted : String, options.refinement.brand = some wanted -> wanted ≠ "" ->
      (ListsOnlyBearers (ofRequest catalog query sort options).value (·.brand) wanted <->
        strip wanted.toList ≠ [] ∨ (ofRequest catalog query sort options).value.products = [])) ∧
      forall wanted : String, options.refinement.category = some wanted -> wanted ≠ "" ->
        (ListsOnlyBearers (ofRequest catalog query sort options).value (·.category) wanted <->
          strip wanted.toList ≠ [] ∨
            (ofRequest catalog query sort options).value.products = []) := by
  have hagrees : forall product,
      product ∈ (ofRequest catalog query sort options).value.products ->
        nameAgrees options.refinement.brand product.brand = true ∧
          nameAgrees options.refinement.category product.category = true := by
    intro product hmem
    have hholds := holds_of_mem_products hmatcher hmem
    rw [holds, Bool.and_eq_true, Bool.and_eq_true] at hholds
    exact hholds.1
  constructor
  · intro wanted hbrand hwanted
    apply listsOnlyBearers_iff hwanted
    intro product hmem
    rw [← hbrand]
    exact (hagrees product hmem).1
  · intro wanted hcategory hwanted
    apply listsOnlyBearers_iff hwanted
    intro product hmem
    rw [← hcategory]
    exact (hagrees product hmem).2

def namedLamp : Product :=
  { id := "1", name := "Lamp", brand := some "lux", category := some "Lighting" }

def namelessLamp : Product :=
  { id := "2", name := "Lamp" }

def spacedNames : SearchOptions :=
  { matcher := some proposeAll
    refinement := { brand := some " LUX ", category := some "lighting\n" } }

theorem namedProducts_iff_namedLamp :
    (forall m, spacedNames.matcher = some m -> DrawsFromCatalog m) ∧
      [namedLamp, namelessLamp].map spacedNames.refinement.holds = [true, false] ∧
      ListsOnlyBearers
        (ofRequest [namedLamp, namelessLamp] "lamp".toList .null spacedNames).value
        (·.brand) " LUX " ∧
      ListsOnlyBearers
        (ofRequest [namedLamp, namelessLamp] "lamp".toList .null spacedNames).value
        (·.category) "lighting\n" := by
  have hmatcher : forall m, spacedNames.matcher = some m -> DrawsFromCatalog m := by
    intro m hm
    rw [← Option.some.inj hm]
    exact proposeAll_drawsFromCatalog
  have hiff := namedProducts_iff [namedLamp, namelessLamp] "lamp".toList .null spacedNames hmatcher
  exact ⟨hmatcher, by decide,
    (hiff.1 " LUX " rfl (by decide)).mpr (Or.inl (by decide)),
    (hiff.2 "lighting\n" rfl (by decide)).mpr (Or.inl (by decide))⟩

def blankBrand : SearchOptions :=
  { refinement := { brand := some " " } }

/-- What has no brand is listed for a blank one. -/
theorem not_listsOnlyBearers_blankBrand :
    " " ≠ "" ∧
      namelessLamp ∈ (ofRequest [namelessLamp] "lamp".toList .null blankBrand).value.products ∧
      ¬ ListsOnlyBearers (ofRequest [namelessLamp] "lamp".toList .null blankBrand).value
        (·.brand) " " := by
  have hselects := products_selects [namelessLamp] "lamp".toList .null blankBrand nofun
  have hid := hselects.scored_listed namelessLamp List.mem_cons_self
    (by decide) (by decide)
  rcases List.mem_map.mp hid with ⟨product, hlisted, _⟩
  have hproduct := List.mem_singleton.mp (hselects.sound product hlisted).1
  rw [hproduct] at hlisted
  refine ⟨by decide, hlisted, fun hbearers => ?_⟩
  rcases exists_mem_page_iff.mpr hlisted with ⟨page, size, hmem⟩
  rcases hbearers page size _ hmem with ⟨name, hname, _⟩
  cases hname

end Results

end CatalogSearch
