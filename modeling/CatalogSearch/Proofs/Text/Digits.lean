import CatalogSearch.Proofs.Text.LowerWords
import CatalogSearch.Text.Alphanumeric
import CatalogSearch.Text.Digit
import Mathlib.Data.List.Chain

/-!
# Digits among the other characters

A decimal digit of any script is a word character and no blank.
-/

namespace CatalogSearch

namespace Text

theorem isDigit_cases
    {c : Char} (h : isDigit c = true) :
    c.toNat < 128 ∧ c.isDigit = true ∨
      ¬ c.toNat < 128 ∧
        exists first : Nat, first ∈ digitZeros ∧ first ≤ c.toNat ∧ c.toNat < first + 10 := by
  unfold isDigit digitValue? at h
  split at h
  · rename_i hascii
    split at h
    · rename_i hdigit
      exact Or.inl ⟨hascii, hdigit⟩
    · cases h
  · rename_i hbeyond
    rw [Option.isSome_map, List.find?_isSome] at h
    rcases h with ⟨first, hmem, hblock⟩
    rw [Bool.and_eq_true, decide_eq_true_iff, decide_eq_true_iff] at hblock
    exact Or.inr ⟨hbeyond, first, hmem, hblock⟩

theorem not_isBlank_of_isDigit
    {c : Char} (h : isDigit c = true) :
    isBlank c = false := by
  have hblocks : forall first : Nat, first ∈ digitZeros -> forall range : CodeRange,
      range ∈ blankRanges -> range.2 < first ∨ first + 10 ≤ range.1 := by decide
  rcases isDigit_cases h with ⟨hascii, hdigit⟩ | ⟨_, first, hmem, hfirst, hlast⟩
  · have hc : c.isDigit = true -> isBlank c = false := forall_ascii hascii (by decide)
    exact hc hdigit
  · cases hblank : isBlank c with
    | false => rfl
    | true =>
        rcases (isBlank_iff c).mp hblank with ⟨range, hrange, hlow, hhigh⟩
        have hapart := hblocks first hmem range hrange
        omega

theorem not_isDigit_of_isBlank (c : Char) (h : isBlank c = true) :
    isDigit c = false := by
  cases hdigit : isDigit c with
  | false => rfl
  | true =>
      rw [not_isBlank_of_isDigit hdigit] at h
      cases h

/-- A search in ranges with increasing starts finds every code of every range. -/
theorem CodeRange.contains_of_mem
    {ranges : List CodeRange} {range : CodeRange} {code : Nat}
    (hsorted : ranges.Pairwise fun range next => range.1 ≤ next.1) (hmem : range ∈ ranges)
    (hfirst : range.1 ≤ code) (hlast : code ≤ range.2) :
    contains ranges code = true := by
  induction ranges with
  | nil => cases hmem
  | cons head ranges ih =>
      rcases List.pairwise_cons.mp hsorted with ⟨hhead, hrest⟩
      rcases List.mem_cons.mp hmem with heq | htail
      · rw [contains, ← heq, if_neg (Nat.not_lt.mpr hfirst), decide_eq_true hlast]
        rfl
      · have hle := Nat.le_trans (hhead range htail) hfirst
        rw [contains, if_neg (Nat.not_lt.mpr hle), ih hrest htail, Bool.or_true]

theorem alphanumericRanges_sorted :
    alphanumericRanges.Pairwise fun range next => range.1 ≤ next.1 := by
  have hchain : alphanumericRanges.IsChain fun range next => range.1 ≤ next.1 := by
    decide +kernel
  have htrans : IsTrans CodeRange fun range next => range.1 ≤ next.1 :=
    ⟨fun _ _ _ => Nat.le_trans⟩
  exact List.isChain_iff_pairwise.mp hchain

theorem isWordChar_of_isDigit
    {c : Char} (h : isDigit c = true) :
    isWordChar c = true := by
  have hblocks : (digitZeros.all fun first => alphanumericRanges.any fun range =>
      Nat.ble range.1 first && Nat.ble (first + 9) range.2) = true := by
    decide +kernel
  rcases isDigit_cases h with ⟨hascii, hdigit⟩ | ⟨hbeyond, first, hmem, hfirst, hlast⟩
  · have hc : c.isDigit = true -> isWordChar c = true := forall_ascii hascii (by decide)
    exact hc hdigit
  · rcases List.any_eq_true.mp (List.all_eq_true.mp hblocks first hmem) with ⟨range, hrange, hin⟩
    rw [Bool.and_eq_true, Nat.ble_eq, Nat.ble_eq] at hin
    have hcontains := CodeRange.contains_of_mem alphanumericRanges_sorted hrange
      (Nat.le_trans hin.1 hfirst) (show c.toNat ≤ range.2 by omega)
    rw [isWordChar, isAlphanumeric, if_neg hbeyond, hcontains, Bool.or_true]

theorem not_isWordChar_of_isBlank
    {c : Char} (h : isBlank c = true) :
    isWordChar c = false := by
  have hcode := @forall_blank (fun code => isWordChar (Char.ofNat code) = false)
    (by decide +kernel) c h
  rw [Char.ofNat_toNat] at hcode
  exact hcode

theorem not_isBlank_of_isWordChar
    {c : Char} (h : isWordChar c = true) :
    isBlank c = false := by
  cases hblank : isBlank c with
  | false => rfl
  | true =>
      rw [not_isWordChar_of_isBlank hblank] at h
      cases h

end Text

end CatalogSearch
