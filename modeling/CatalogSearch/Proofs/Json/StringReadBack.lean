import CatalogSearch.Json.Reader
import CatalogSearch.Json.Writer

/-!
# Written strings are read back

Each code point is read back from the way it is written: as it is, after a backslash, or by
number.
-/

namespace CatalogSearch

open Text

theorem Json.hexValue?_hexDigit (n : Nat) :
    hexValue? (hexDigit n) = some (n % 16) := by
  have hall : forall d : Fin 16, hexValue? (Nat.digitChar d.val) = some d.val := by decide
  exact hall ⟨n % 16, Nat.mod_lt n (by decide)⟩

namespace WideJson

open Json

theorem readHex4_hexDigits
    {n : Nat} (rest : WideText) (h : n < 65536) :
    readHex4 (wide (hexDigits 4 n) ++ rest) = some (n, rest) := by
  have hvalue : ((n / 16 / 16 / 16 % 16 * 16 + n / 16 / 16 % 16) * 16 + n / 16 % 16) * 16 +
      n % 16 = n := by omega
  simp only [hexDigits, List.nil_append, List.cons_append, wide_cons, wide_nil, readHex4,
    hexValue?_hexDigit, Option.bind_eq_bind, Option.bind_some, hvalue]

theorem readCodeEscape_hexDigits
    {c : Char} (rest : WideText) (h : c.toNat < 0xD800) :
    readCodeEscape (wide (hexDigits 4 c.toNat) ++ rest) = some (.char c, rest) := by
  have hnot : ¬ (0xD800 ≤ c.toNat ∧ c.toNat ≤ 0xDBFF) := by omega
  have hcode : CodePoint.ofNat c.toNat = .char c := by
    have hplain : ¬ (0xD800 ≤ c.toNat ∧ c.toNat ≤ 0xDFFF) := by omega
    unfold CodePoint.ofNat
    rw [dif_neg hplain, Char.ofNat_toNat c]
  unfold readCodeEscape
  rw [readHex4_hexDigits rest (by omega)]
  simp only
  rw [if_neg hnot, hcode]

theorem readStringAfter_escapedChar (done : WideText) (fuel : Nat) (c : Char)
    (rest : WideText) :
    readStringAfter done (fuel + 1) (wide (escapedChar c) ++ rest) =
      readStringAfter (.char c :: done) fuel rest := by
  unfold escapedChar
  by_cases hquote : c = '\x22' ∨ c = '\x5c'
  · rw [if_pos hquote]
    rcases hquote with rfl | rfl
    · rfl
    · rfl
  · rw [if_neg hquote]
    split
    · rename_i hc
      rw [hc]
      rfl
    split
    · rename_i hc
      rw [hc]
      rfl
    split
    · rename_i hc
      rw [hc]
      rfl
    split
    · rename_i hc
      rw [hc]
      rfl
    split
    · rename_i hc
      rw [hc]
      rfl
    split
    · rename_i hcontrol
      have hescape := readCodeEscape_hexDigits (c := c) rest (by omega)
      have hread : readEscape (.char 'u' :: (wide (hexDigits 4 c.toNat) ++ rest)) =
          some (.char c, rest) := hescape
      have hne : ¬ '\x5c' = '\x22' := by decide
      rw [wide_cons, wide_cons, List.cons_append, List.cons_append, readStringAfter, if_neg hne,
        if_pos rfl, hread]
    · rename_i hcontrol
      rcases not_or.mp hquote with ⟨hnotQuote, hnotBackslash⟩
      rw [wide_cons, wide_nil, List.singleton_append, readStringAfter, if_neg hnotQuote,
        if_neg hnotBackslash, if_neg hcontrol]

theorem readStringAfter_escaped (done : WideText) (fuel : Nat) (point : CodePoint)
    (rest : WideText) :
    readStringAfter done (fuel + 1) (escaped point ++ rest) =
      readStringAfter (point :: done) fuel rest := by
  cases point with
  | char c => exact readStringAfter_escapedChar done fuel c rest
  | surrogate place => rfl

theorem readStringAfter_text
    {fuel : Nat} (done text rest : WideText) (hfuel : text.length < fuel) :
    readStringAfter done fuel (text.flatMap escaped ++ .char '\x22' :: rest) =
      .ok (done.reverse ++ text, rest) := by
  induction text generalizing done fuel with
  | nil =>
      cases fuel with
      | zero => omega
      | succ fuel =>
          rw [List.flatMap_nil, List.nil_append, readStringAfter, if_pos rfl, List.append_nil]
  | cons point text ih =>
      cases fuel with
      | zero => omega
      | succ fuel =>
          rw [List.length_cons] at hfuel
          rw [List.flatMap_cons, List.append_assoc, readStringAfter_escaped,
            ih (point :: done) (by omega), List.reverse_cons, List.append_assoc,
            List.singleton_append]

theorem readString_writeString
    {fuel : Nat} (text rest : WideText) (hfuel : text.length < fuel) :
    readString fuel (text.flatMap escaped ++ .char '\x22' :: rest) = .ok (text, rest) :=
  readStringAfter_text [] text rest hfuel

theorem length_le_flatMap_escaped (text : WideText) :
    text.length ≤ (text.flatMap escaped).length := by
  have hone : forall point : CodePoint, 1 ≤ (escaped point).length := by
    intro point
    cases point with
    | char c =>
        rw [escaped, length_wide]
        unfold escapedChar
        repeat' split
        all_goals simp
    | surrogate place => exact Nat.le_refl _
  induction text with
  | nil => exact Nat.le_refl _
  | cons point text ih =>
      have hpoint := hone point
      rw [List.flatMap_cons, List.length_append, List.length_cons]
      omega

theorem length_writeString (text : WideText) :
    text.length + 2 ≤ (writeString text).length := by
  have hlength := length_le_flatMap_escaped text
  simp only [writeString, List.length_append, List.length_cons, List.length_nil]
  omega

end WideJson

end CatalogSearch
