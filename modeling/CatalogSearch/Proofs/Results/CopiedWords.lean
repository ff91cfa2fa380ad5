import CatalogSearch.Proofs.Results.TermByTerm
import CatalogSearch.Proofs.Text.LowerInPlace
import CatalogSearch.Query.Expression

/-!
# Words copied from a product

A query asks for its words in lower case, each by itself, and looks for them in
the lower case of a name and a description as a whole.  A word copied from a
product finds it wherever its sigmas have the form there that they have in the
word: always if it is a whole word, and for a part of a word in every product
exactly if the part settles the form of each.
-/

namespace CatalogSearch

open Text

namespace Reading

def outsideExpressions (query : List Char) : List Char :=
  (priceForms (splitId (strip query)).2).foldl cut (splitId (strip query)).2

def termOf (word : List Char) : String :=
  String.ofList (lower word)

theorem terms_eq_map_termOf (query : List Char) :
    (ofExpressions query).criteria.terms = (words (outsideExpressions query)).map termOf := by
  have hterms : (ofExpressions query).criteria.terms =
      (words (lower (collapse (outsideExpressions query)))).map String.ofList := rfl
  rw [hterms, words_lower_collapse, List.map_map]
  rfl

end Reading

namespace Criteria

open Reading

def Keeps (term : String) (product : Product) : Prop :=
  forall (criteria : Criteria) (terms : List String),
    ((criteria.withTerms terms).score? product).isSome = true ->
      ((criteria.withTerms (terms ++ [term])).score? product).isSome = true

def CopiedFrom (product : Product) (word : List Char) : Prop :=
  word <:+: product.name.toList ∨ word <:+: product.description.toList

/-- A text that stands in another where its sigmas have the form that they have in it alone. -/
def StandsAlike (word text : List Char) : Prop :=
  exists front back : List Char, text = front ++ (word ++ back) ∧ SigmasAgree front word back

variable {product : Product} {word : List Char}

theorem keeps_termOf_of_occurs (h : TermOccurs product (lower word)) :
    Keeps (termOf word) product := by
  intro criteria terms hkept
  rcases score?_withTerms_isSome_iff.mp hkept with ⟨hadmits, hterms⟩
  refine score?_withTerms_isSome_iff.mpr ⟨hadmits, ?_⟩
  rw [List.forall_mem_append, List.forall_mem_singleton]
  refine ⟨hterms, termWorth_pos_iff.mpr ?_⟩
  rwa [termOf, String.toList_ofList]

theorem occurs_of_keeps_termOf (hid : product.id ≠ "") (h : Keeps (termOf word) product) :
    TermOccurs product (lower word) := by
  have hadmits : ({} : Criteria).admits product = true :=
    admits_iff.mpr ⟨hid, nofun, nofun⟩
  have hbare : ((({} : Criteria).withTerms []).score? product).isSome = true :=
    score?_withTerms_isSome_iff.mpr ⟨hadmits, nofun⟩
  have hkept := (score?_withTerms_isSome_iff.mp (h {} [] hbare)).2 (termOf word)
    (List.mem_singleton.mpr rfl)
  have hoccurs := termWorth_pos_iff.mp hkept
  rwa [termOf, String.toList_ofList] at hoccurs

theorem lower_infix_of_standsAlike {text : List Char} (h : StandsAlike word text) :
    lower word <:+: lower text := by
  rcases h with ⟨front, back, rfl, hagree⟩
  exact lower_infix_of_agree hagree

def namedAs (name : List Char) : Product :=
  { id := "1", name := String.ofList name }

/-- A word finds every product that it is copied from exactly if it settles its sigmas. -/
theorem keeps_copies_iff :
    (forall product : Product, CopiedFrom product word -> Keeps (termOf word) product) <->
      sigmasSettled word = true := by
  rw [← lower_infix_iff]
  constructor
  · intro h text hpart
    have hname : (namedAs text).name.toList = text := String.toList_ofList
    have hcopied : CopiedFrom (namedAs text) word := Or.inl (hname.symm ▸ hpart)
    have hid : (namedAs text).id ≠ "" := by
      show "1" ≠ ""
      decide
    rcases occurs_of_keeps_termOf hid (h _ hcopied) with hfound | hfound
    · rwa [hname] at hfound
    · have hempty : lower word = [] := List.infix_nil.mp hfound
      rw [hempty]
      exact List.nil_infix
  · rintro h product (hname | hdescription)
    · exact keeps_termOf_of_occurs (Or.inl (h _ hname))
    · exact keeps_termOf_of_occurs (Or.inr (h _ hdescription))

/-- Which of the products that a text is copied from it finds as a term. -/
structure FindsCopies (word : List Char) : Prop where
  /-- It finds a product with it as a whole word. -/
  whole : forall product : Product,
    word ∈ words product.name.toList ∨ word ∈ words product.description.toList ->
      Keeps (termOf word) product
  /-- It finds a product where its sigmas have their own form in one place. -/
  alike : forall product : Product,
    StandsAlike word product.name.toList ∨ StandsAlike word product.description.toList ->
      Keeps (termOf word) product
  /-- It finds every product that it is copied from exactly if it settles its sigmas. -/
  settled_iff :
    (forall product : Product, CopiedFrom product word -> Keeps (termOf word) product) <->
      sigmasSettled word = true

/-- A query asks for its words outside the expressions, each in lower case by itself, and a copied
text finds its products as far as its sigmas allow. -/
theorem findsCopies (query word : List Char) :
    (ofExpressions query).criteria.terms = (words (outsideExpressions query)).map termOf ∧
      FindsCopies word := by
  refine ⟨terms_eq_map_termOf query, ?_⟩
  constructor
  · rintro product (hname | hdescription)
    · exact keeps_termOf_of_occurs (Or.inl (lower_infix_of_mem_words hname))
    · exact keeps_termOf_of_occurs (Or.inr (lower_infix_of_mem_words hdescription))
  · rintro product (hname | hdescription)
    · exact keeps_termOf_of_occurs (Or.inl (lower_infix_of_standsAlike hname))
    · exact keeps_termOf_of_occurs (Or.inr (lower_infix_of_standsAlike hdescription))
  · exact keeps_copies_iff

def music : Product :=
  { id := "1", name := "ΜΟΥΣΙΚΗ", description := "ΟΔΟΣ ΕΡΜΟΥ" }

theorem findsCopies_music :
    sigmasSettled "ΥΣΙΚ".toList = true ∧ CopiedFrom music "ΥΣΙΚ".toList ∧
      Keeps (termOf "ΥΣΙΚ".toList) music ∧
      sigmasSettled "ΟΔΟΣ".toList = false ∧ "ΟΔΟΣ".toList ∈ words music.description.toList ∧
      Keeps (termOf "ΟΔΟΣ".toList) music := by
  have hsettled : sigmasSettled "ΥΣΙΚ".toList = true := by decide
  have hcopied : CopiedFrom music "ΥΣΙΚ".toList :=
    Or.inl (occursIn_iff_isInfix.mp (by decide))
  have hword : "ΟΔΟΣ".toList ∈ words music.description.toList := by decide
  have hpart := (findsCopies "ΥΣΙΚ ΟΔΟΣ".toList "ΥΣΙΚ".toList).2
  have hwhole := (findsCopies "ΥΣΙΚ ΟΔΟΣ".toList "ΟΔΟΣ".toList).2
  exact ⟨hsettled, hcopied, hpart.settled_iff.mpr hsettled music hcopied,
    by decide, hword, hwhole.whole music (Or.inr hword)⟩

/-- A part of a word ends in another sigma than it has in the word. -/
theorem not_keeps_beginningOfMusic :
    CopiedFrom music "ΜΟΥΣ".toList ∧ (forall c : Char, c ∈ "ΜΟΥΣ".toList -> isBlank c = false) ∧
      (ofExpressions "ΜΟΥΣ".toList).criteria.terms = [termOf "ΜΟΥΣ".toList] ∧
      ¬ Keeps (termOf "ΜΟΥΣ".toList) music := by
  have hsolid : "ΜΟΥΣ".toList.any isBlank = false := by decide
  refine ⟨Or.inl (occursIn_iff_isInfix.mp (by decide)), ?_, by decide, ?_⟩
  · exact fun c hc => Bool.eq_false_iff.mpr (List.any_eq_false.mp hsolid c hc)
  intro hkeeps
  have hid : music.id ≠ "" := by decide
  rcases occurs_of_keeps_termOf hid hkeeps with hfound | hfound
  · exact absurd (occursIn_iff_isInfix.mpr hfound) (by decide)
  · exact absurd (occursIn_iff_isInfix.mpr hfound) (by decide)

end Criteria

end CatalogSearch
