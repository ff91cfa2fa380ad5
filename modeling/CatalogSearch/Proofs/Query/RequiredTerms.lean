import CatalogSearch.Proofs.Query.Expressions
import CatalogSearch.Proofs.Text.Occurrence
import CatalogSearch.Proofs.Text.LowerWords
import CatalogSearch.Query.Interpretation

/-!
# The words and the id that a query asks for

The words to be found are words in lower case, whatever was cut out between
them, and an id that is asked for is not empty.
-/

namespace CatalogSearch

open Text

namespace Reading

/-!
## Words to be found
-/

theorem isLower_residual
    {query : List Char} {c : Char} (h : c ∈ (ofExpressions query).residual) :
    IsLower c :=
  (mem_lowerAfter h).1

theorem isLower_withoutPhrases
    {phrases : List (List Char)} {text : List Char} (htext : forall c : Char, c ∈ text -> IsLower c)
    {word : List Char} (h : word ∈ words (Phrase.withoutPhrases phrases text)) :
    IsLowerWord word := by
  unfold Phrase.withoutPhrases at h
  rw [words_collapse] at h
  refine isLowerWord_of_mem_words ?_ h
  clear h
  induction phrases generalizing text with
  | nil => exact htext
  | cons phrase phrases ih =>
      rw [List.foldl_cons]
      apply ih
      intro c hc
      split at hc
      · exact htext c hc
      · rcases mem_of_mem_blankFirst hc with hspace | hold
        · rw [hspace]
          exact isLower_of_isBlank isBlank_space
        · exact htext c hold

theorem isLowerWord_of_mem_terms
    {query : List Char} {term : String} (h : term ∈ (ofQuery query).criteria.terms) :
    IsLowerWord term.toList := by
  have hterms : (ofQuery query).criteria.terms =
      requiredTerms (ofExpressions query) (ofPhrases (ofExpressions query).residual) := rfl
  rw [hterms, requiredTerms] at h
  have hmem := (List.mem_filter.mp h).1
  split at hmem
  · have hwords : (ofExpressions query).criteria.terms =
        (words (ofExpressions query).residual).map String.ofList := rfl
    rw [hwords] at hmem
    rcases List.mem_map.mp hmem with ⟨word, hword, heq⟩
    rw [← heq, String.toList_ofList]
    exact isLowerWord_of_mem_words (fun c hc => isLower_residual hc) hword
  · rcases List.mem_map.mp hmem with ⟨word, hword, heq⟩
    rw [← heq, String.toList_ofList]
    exact isLower_withoutPhrases (fun c hc => isLower_residual hc) hword

/-!
## The id
-/

theorem id_ne_empty
    {query : List Char} {wanted : String} (h : (ofQuery query).criteria.id = some wanted) :
    wanted ≠ "" := by
  have hid : (ofQuery query).criteria.id =
      (Pattern.idExpression.search (strip query)).map fun found => String.ofList found.value := rfl
  rw [hid] at h
  rcases Option.map_eq_some_iff.mp h with ⟨found, hfound, hwanted⟩
  have hplace := Pattern.foundAt_of_search Pattern.covers_idExpression hfound
  have hvalue := Pattern.idExpression_value hplace.fits
  intro hempty
  rw [hempty, String.ofList_eq_empty_iff] at hwanted
  exact hvalue hwanted

end Reading

end CatalogSearch
