import CatalogSearch.Proofs.Text.Characters
import CatalogSearch.Query.Pattern

/-!
# Forms of letters

A pattern takes a letter in either case and a few forms beyond ASCII.  No form of a letter is a
hyphen, a digit or a sign.
-/

namespace CatalogSearch

open Text

namespace Pattern

theorem toNat_lt_of_isUpper
    {c : Char} (h : c.isUpper = true) :
    c.toNat < 128 := by
  unfold Char.isUpper at h
  have hle := (of_decide_eq_true h).2
  rw [UInt32.le_iff_toNat_le] at hle
  exact Nat.lt_of_le_of_lt hle (by decide)

theorem toNat_lt_of_isLower
    {c : Char} (h : c.isLower = true) :
    c.toNat < 128 := by
  unfold Char.isLower at h
  rw [Bool.and_eq_true] at h
  have hle := of_decide_eq_true h.2
  rw [UInt32.le_iff_toNat_le] at hle
  exact Nat.lt_of_le_of_lt hle (by decide)

/-- A form of a letter is the letter, its capital or one of four characters beyond ASCII. -/
theorem sameLetter_cases
    {letter c : Char} (h : sameLetter letter c = true) :
    c = letter ∨ c.isUpper = true ∧ c.toLower = letter ∨
      letter ∈ ['s', 'k', 'i'] ∧ c.toNat ∈ [0x17F, 0x212A, 0x130, 0x131] := by
  unfold sameLetter at h
  simp only [Bool.or_eq_true, Bool.and_eq_true, beq_iff_eq] at h
  rcases h with (((heq | hlower) | ⟨hs, hcode⟩) | ⟨hk, hcode⟩) | ⟨hi, hcode⟩
  · exact Or.inl heq
  · by_cases hupper : c.isUpper = true
    · exact Or.inr (Or.inl ⟨hupper, hlower⟩)
    · left
      rw [toLower_of_not_isUpper hupper] at hlower
      exact hlower
  · simp [hs, hcode]
  · simp [hk, hcode]
  · rcases hcode with hcode | hcode
    · simp [hi, hcode]
    · simp [hi, hcode]

/-- A class that has the ASCII letters and the four characters beyond ASCII has all forms of
letters. -/
theorem forall_sameLetter
    (class? : Char -> Bool)
    (hascii : forall c : Char, c.toNat < 128 -> c.isUpper = true ∨ c.isLower = true ->
      class? c = true)
    (hcodes : ([0x17F, 0x212A, 0x130, 0x131].all fun code => class? (Char.ofNat code)) = true)
    {letter c : Char} (hletter : letter.isLower = true) (h : sameLetter letter c = true) :
    class? c = true := by
  rcases sameLetter_cases h with heq | ⟨hupper, _⟩ | ⟨_, hcode⟩
  · rw [heq]
    exact hascii letter (toNat_lt_of_isLower hletter) (Or.inr hletter)
  · exact hascii c (toNat_lt_of_isUpper hupper) (Or.inl hupper)
  · have hc := List.all_eq_true.mp hcodes c.toNat hcode
    rw [Char.ofNat_toNat] at hc
    exact hc

theorem sameLetter_symbol
    {letter c : Char} (hletter : letter.isLower = false) (h : sameLetter letter c = true) :
    c = letter := by
  rcases sameLetter_cases h with heq | ⟨hupper, hlower⟩ | ⟨hmem, _⟩
  · exact heq
  · have hc : c.isUpper = true -> c.toLower.isLower = true :=
      forall_ascii (toNat_lt_of_isUpper hupper) (by decide)
    rw [hlower, hletter] at hc
    exact absurd (hc hupper) Bool.false_ne_true
  · have hspecial : letter.isLower = true := forall_mem_of_check hmem (by decide)
    rw [hspecial] at hletter
    cases hletter

theorem sameLetter_p
    {c : Char} (h : sameLetter 'p' c = true) :
    c = 'p' ∨ c = 'P' := by
  rcases sameLetter_cases h with heq | ⟨hupper, hlower⟩ | ⟨hmem, _⟩
  · exact Or.inl heq
  · right
    have hc : c.toLower = 'p' -> c.isUpper = true -> c = 'P' :=
      forall_ascii (toNat_lt_of_isUpper hupper) (by decide)
    exact hc hlower hupper
  · exact absurd hmem (by decide)

theorem sameLetter_hyphen
    {letter : Char} (h : sameLetter letter '-' = true) :
    letter = '-' := by
  rcases sameLetter_cases h with heq | ⟨hupper, _⟩ | ⟨_, hcode⟩
  · exact heq.symm
  · cases hupper
  · exact absurd hcode (by decide)

end Pattern

end CatalogSearch
