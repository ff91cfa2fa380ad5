import CatalogSearch.Proofs.Json.ReadBack
import CatalogSearch.Service.Response

/-!
# Responses name each member once

A response, and every object inside it, names no member twice, so that it can be read back from
its text.
-/

namespace CatalogSearch

open Document Json

theorem Json.itemsDistinct_of_forall
    {items : List Json} (h : forall item : Json, item ∈ items -> NamesDistinct item) :
    ItemsDistinct items := by
  induction items with
  | nil => exact True.intro
  | cons item items ih =>
      constructor
      · exact h item List.mem_cons_self
      · exact ih (fun other hmem => h other (List.mem_cons_of_mem item hmem))

theorem Json.namesDistinct_strings (texts : List String) :
    NamesDistinct (.array (texts.map Document.string)) := by
  apply itemsDistinct_of_forall
  intro item hmem
  rcases List.mem_map.mp hmem with ⟨text, _, htext⟩
  rw [← htext]
  exact True.intro

theorem Json.namesDistinct_ofText? (text : Option String) :
    NamesDistinct (Document.ofText? text) := by
  cases text with
  | none => exact True.intro
  | some text => exact True.intro

theorem Json.namesDistinct_ofNumber? (number : Option Binary64) :
    NamesDistinct (.ofNumber? number : Json) := by
  cases number with
  | none => exact True.intro
  | some number => exact True.intro

theorem Product.namesDistinct_toJson (product : Product) :
    NamesDistinct product.toJson := by
  constructor
  · simp only [List.map_cons, List.map_nil]
    decide
  · exact ⟨True.intro, True.intro, True.intro, namesDistinct_ofNumber? _, namesDistinct_ofText? _,
      namesDistinct_ofText? _, namesDistinct_ofText? _, namesDistinct_ofText? _, True.intro⟩

theorem Reading.namesDistinct_toJson (reading : Reading) :
    NamesDistinct reading.toJson := by
  constructor
  · simp only [List.map_cons, List.map_nil]
    decide
  · exact ⟨True.intro, namesDistinct_ofText? _, namesDistinct_ofText? _, namesDistinct_strings _,
      namesDistinct_ofText? _, namesDistinct_ofText? _, namesDistinct_ofText? _, True.intro,
      True.intro, True.intro⟩

theorem Facets.namesDistinct_toJson (facets : Facets) :
    NamesDistinct facets.toJson := by
  have hrange : NamesDistinct facets.priceRange := by
    unfold Facets.priceRange
    cases facets.minPrice with
    | none => exact True.intro
    | some low =>
        cases facets.maxPrice with
        | none => exact True.intro
        | some high =>
            constructor
            · simp only [List.map_cons, List.map_nil]
              decide
            · exact ⟨True.intro, True.intro, True.intro⟩
  constructor
  · simp only [List.map_cons, List.map_nil]
    decide
  · exact ⟨namesDistinct_strings _, namesDistinct_strings _, hrange, True.intro⟩

theorem Results.namesDistinct_response (results : Results) (query : String) (page : Page)
    (elapsed : Binary64) :
    exists members, results.response query page elapsed = .object members ∧
      NamesDistinct (.object members) := by
  have hitems : NamesDistinct (.array (page.items.map Product.toJson)) := by
    apply itemsDistinct_of_forall
    intro item hmem
    rcases List.mem_map.mp hmem with ⟨product, _, hproduct⟩
    rw [← hproduct]
    exact Product.namesDistinct_toJson product
  refine ⟨_, rfl, ?_, ?_⟩
  · simp only [List.map_cons, List.map_nil]
    decide
  · exact ⟨True.intro, hitems, True.intro, True.intro, True.intro, True.intro,
      Reading.namesDistinct_toJson _, Facets.namesDistinct_toJson _, True.intro, True.intro⟩

end CatalogSearch
