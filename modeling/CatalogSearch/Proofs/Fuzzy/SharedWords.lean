import CatalogSearch.Proofs.Fuzzy.Ratios
import CatalogSearch.Proofs.Fuzzy.Thresholds
import CatalogSearch.Proofs.Text.NormalForm

/-!
# Shared words

A product that has every word of a query has every sound of it as well, so its likeness is at
least one, in whatever order the words come and whatever ratio compares the spellings.
-/

namespace CatalogSearch

namespace Binary64

theorem ofQuotient_self {n : Nat} (h : 0 < n) : ofQuotient false n n = ofNat 1 := by
  have hrank : Magnitude.nearestRank (n * unitsPerOne) n =
      Magnitude.nearestRank unitsPerOne 1 := by
    have hscaled := @Magnitude.nearestRank_mul_right unitsPerOne 1 n h
    rwa [Nat.one_mul, Nat.mul_comm] at hscaled
  unfold ofNat ofQuotient ofUnits Magnitude.nearest
  rw [hrank, Nat.one_mul]

theorem le_max_right {x y : Binary64} (hx : x.isNaN = false) (hy : y.isNaN = false) :
    y.le (x.max y) = true := by
  unfold max
  split
  · exact le_iff.mpr ⟨hy, hy, Int.le_refl _⟩
  · rename_i hlt
    exact le_of_not_lt hy hx (by simpa using hlt)

end Binary64

namespace Text

theorem words_normalizeBy_ne_nil {spell : Char -> List Char} {text : List Char}
    (h : normalizeBy spell text ≠ []) : words (normalizeBy spell text) ≠ [] := by
  rw [words_normalizeBy]
  intro hnone
  apply h
  rw [normalizeBy, hnone, joinWords_nil]

end Text

namespace Fuzzy

theorem soundShare_eq_one {wordCodes : List (List (List Char))} {codes : List (List Char)}
    (hne : wordCodes ≠ []) (h : forall word, word ∈ wordCodes ->
      exists code : List Char, code ∈ word ∧ code ∈ codes) :
    soundShare wordCodes codes = .ofNat 1 := by
  have hall : (wordCodes.countP fun word => word.any codes.contains) = wordCodes.length := by
    refine List.countP_eq_length.mpr ?_
    intro word hword
    rcases h word hword with ⟨code, hcode, hgiven⟩
    exact List.any_eq_true.mpr ⟨code, hcode, List.contains_iff_mem.mpr hgiven⟩
  rw [soundShare, if_neg (by simpa using hne), hall]
  exact Binary64.ofQuotient_self (List.length_pos_of_ne_nil hne)

/-- Every word of a text sounds like itself, so a text that has all words of another has a code for
each. -/
theorem soundShare_of_words (sound : List Char -> List Char × List Char) {text other : List Char}
    (hne : Text.words text ≠ [])
    (h : forall word : List Char, word ∈ Text.words text -> word ∈ Text.words other) :
    soundShare (Phonetic.textCodesBy sound text) (Phonetic.textCodesBy sound other).flatten =
      .ofNat 1 := by
  apply soundShare_eq_one
  · simpa [Phonetic.textCodesBy] using hne
  · intro codes hcodes
    rcases List.mem_map.mp hcodes with ⟨word, hword, rfl⟩
    rcases List.exists_mem_of_ne_nil _ (Phonetic.wordCodesBy_ne_nil sound word) with ⟨code, hcode⟩
    exact ⟨code, hcode, List.mem_flatten.mpr ⟨_, List.mem_map_of_mem (h word hword), hcode⟩⟩

section

variable (tools : Tools) {product : Product}

theorem one_le_spellingOrSoundBy {normal : List Char}
    (hratio : (tools.ratio normal (comparedText tools product)).isNaN = false)
    (hne : Text.words normal ≠ [])
    (hwords : forall word : List Char, word ∈ Text.words normal ->
      word ∈ Text.words (comparedText tools product)) :
    (Binary64.ofNat 1).le (spellingOrSoundBy tools normal product) = true := by
  have hcompared : ¬ (comparedText tools product).isEmpty = true := by
    intro hempty
    rcases List.exists_mem_of_ne_nil _ hne with ⟨word, hword⟩
    have hmem := hwords word hword
    rw [List.isEmpty_iff.mp hempty] at hmem
    cases hmem
  have hscore : spellingOrSoundBy tools normal product =
      (tools.ratio normal (comparedText tools product) / .ofNat 100).max (.ofNat 1) := by
    unfold spellingOrSoundBy likenessBy
    dsimp only
    rw [if_neg hcompared, soundShare_of_words tools.sound hne hwords]
  rw [hscore]
  have hnumber : (tools.ratio normal (comparedText tools product) / .ofNat 100).isNaN = false :=
    Binary64.isNaN_div hratio (by decide +kernel) (by decide +kernel)
  exact Binary64.le_max_right hnumber rfl

end

theorem isNear_of_one_le {threshold score : Binary64} (hscore : (Binary64.ofNat 1).le score = true)
    (hthreshold : Binary64.zero.le threshold = true) : isNear threshold score = true := by
  have hnothing : Binary64.ofNat 1 - .ofNat 1 = .zero := by decide +kernel
  have hgap := Binary64.sub_le_sub_left (z := .ofNat 1) (by decide +kernel) hscore
  rw [hnothing] at hgap
  exact Binary64.le_trans hgap hthreshold

theorem mem_searchBy {normalize : List Char -> List Char} {measure : Likeness}
    {threshold : Binary64} {query : List Char} {catalog : Catalog} {product : Product}
    (hwords : normalize query ≠ []) (hmem : product ∈ catalog)
    (hnear : isNear threshold (measure (normalize query) product) = true) :
    (product, measure (normalize query) product) ∈
      searchBy normalize measure threshold query catalog := by
  rw [searchBy_of_words hwords, near, List.mem_mergeSort, List.mem_filter]
  exact ⟨List.mem_map_of_mem hmem, hnear⟩

/-- A product that has every word of a text is like it, and a candidate for it at every threshold
from zero on, whatever the tools. -/
theorem shared_words (tools : Tools) {query : List Char} {product : Product}
    (hratio : (tools.ratio (Text.normalizeBy tools.spell query)
      (comparedText tools product)).isNaN = false)
    (hquery : Text.normalizeBy tools.spell query ≠ [])
    (hwords : forall word : List Char, word ∈ Text.words (Text.normalizeBy tools.spell query) ->
      word ∈ Text.words (comparedText tools product)) :
    (Binary64.ofNat 1).le
        (spellingOrSoundBy tools (Text.normalizeBy tools.spell query) product) = true ∧
      forall threshold : Binary64, Binary64.zero.le threshold = true ->
        forall catalog : Catalog, product ∈ catalog ->
          (product, spellingOrSoundBy tools (Text.normalizeBy tools.spell query) product) ∈
            searchBy (Text.normalizeBy tools.spell) (spellingOrSoundBy tools) threshold query
              catalog := by
  have hlike := one_le_spellingOrSoundBy tools hratio (Text.words_normalizeBy_ne_nil hquery) hwords
  refine ⟨hlike, ?_⟩
  intro threshold hthreshold catalog hmem
  exact mem_searchBy hquery hmem (isNear_of_one_le hlike hthreshold)

def ceilingLamp : Product :=
  { id := "7", name := "Lamp 60 W", description := "Hangs from the ceiling" }

theorem shared_words_ceilingLamp :
    (Tools.usual.ratio (Text.normalize "Ceiling LAMP, 60!".toList)
        (comparedText .usual ceilingLamp)).isNaN = false ∧
      Text.normalize "Ceiling LAMP, 60!".toList ≠ [] ∧
      (forall word : List Char, word ∈ Text.words (Text.normalize "Ceiling LAMP, 60!".toList) ->
        word ∈ Text.words (comparedText .usual ceilingLamp)) ∧
      Binary64.zero.le .zero = true ∧ ceilingLamp ∈ [ceilingLamp] ∧
      (Binary64.ofNat 1).le
        (spellingOrSound (Text.normalize "Ceiling LAMP, 60!".toList) ceilingLamp) = true ∧
      (ceilingLamp, spellingOrSound (Text.normalize "Ceiling LAMP, 60!".toList) ceilingLamp) ∈
        search spellingOrSound .zero "Ceiling LAMP, 60!".toList [ceilingLamp] := by
  have husual : Tools.usual.ratio = Similarity.weightedRatio := rfl
  have hratio : (Tools.usual.ratio (Text.normalize "Ceiling LAMP, 60!".toList)
      (comparedText .usual ceilingLamp)).isNaN = false := by
    rw [husual]
    exact Similarity.isNaN_weightedRatio (by decide +kernel)
  have hquery : Text.normalize "Ceiling LAMP, 60!".toList ≠ [] := by decide
  have hwords : forall word : List Char,
      word ∈ Text.words (Text.normalize "Ceiling LAMP, 60!".toList) ->
        word ∈ Text.words (comparedText .usual ceilingLamp) := by
    have hasked : Text.words (Text.normalize "Ceiling LAMP, 60!".toList) =
        ["ceiling".toList, "lamp".toList, "60".toList] := by decide
    have hgiven : Text.words (comparedText .usual ceilingLamp) =
        ["lamp".toList, "60".toList, "w".toList, "hangs".toList, "from".toList, "the".toList,
          "ceiling".toList] := by decide
    rw [hasked, hgiven]
    decide
  have hzero : Binary64.zero.le .zero = true := by decide
  have hmem : ceilingLamp ∈ [ceilingLamp] := List.mem_cons_self
  have hshared := shared_words .usual hratio hquery hwords
  exact ⟨hratio, hquery, hwords, hzero, hmem, hshared.1,
    hshared.2 .zero hzero [ceilingLamp] hmem⟩

end Fuzzy

end CatalogSearch
