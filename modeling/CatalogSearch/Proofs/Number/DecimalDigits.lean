import CatalogSearch.Number.Decimal
import Mathlib.Tactic.Ring

/-!
# Decimal digits are read back

The digits of a natural number have its value, and only zero starts with a zero.
-/

namespace CatalogSearch

open Text

def AllDigits (text : List Char) : Prop :=
  forall c : Char, c ∈ text -> c.isDigit = true

namespace AllDigits

theorem nil : AllDigits [] := by
  intro c hmem
  cases hmem

theorem cons
    {c : Char} {text : List Char} (hc : c.isDigit = true) (h : AllDigits text) :
    AllDigits (c :: text) := by
  intro d hmem
  rcases List.mem_cons.mp hmem with rfl | hrest
  · exact hc
  · exact h d hrest

theorem append
    {front back : List Char} (hfront : AllDigits front) (hback : AllDigits back) :
    AllDigits (front ++ back) := by
  intro c hmem
  rcases List.mem_append.mp hmem with h | h
  · exact hfront c h
  · exact hback c h

theorem zeros (count : Nat) :
    AllDigits (List.replicate count '0') := by
  intro c hmem
  rw [List.eq_of_mem_replicate hmem]
  decide

theorem take
    {text : List Char} (h : AllDigits text) (count : Nat) :
    AllDigits (text.take count) := by
  intro c hmem
  exact h c (List.mem_of_mem_take hmem)

theorem drop
    {text : List Char} (h : AllDigits text) (count : Nat) :
    AllDigits (text.drop count) := by
  intro c hmem
  exact h c (List.mem_of_mem_drop hmem)

theorem head
    {c : Char} {text : List Char} (h : AllDigits (c :: text)) :
    c.isDigit = true :=
  h c List.mem_cons_self

theorem tail
    {c : Char} {text : List Char} (h : AllDigits (c :: text)) :
    AllDigits text := by
  intro d hmem
  exact h d (List.mem_cons_of_mem c hmem)

end AllDigits

/-!
## The value of digits
-/

theorem isDigit_bounds
    {c : Char} (h : c.isDigit = true) :
    48 ≤ c.toNat ∧ c.toNat ≤ 57 := by
  simp only [Char.isDigit, Bool.and_eq_true, decide_eq_true_iff, UInt32.le_iff_toNat_le] at h
  exact h

theorem digitValue?_of_isDigit
    {c : Char} (h : c.isDigit = true) :
    digitValue? c = some (c.toNat - 48) := by
  have hbounds := isDigit_bounds h
  have hascii : c.toNat < 0x80 := by omega
  unfold digitValue?
  rw [if_pos hascii, if_pos h]

theorem digitsValue_eq_ofDigitChars
    {text : List Char} (h : AllDigits text) :
    digitsValue text = Nat.ofDigitChars 10 text 0 := by
  have hfold : forall init : Nat,
      text.foldl (fun value c => 10 * value + (digitValue? c).getD 0) init =
        Nat.ofDigitChars 10 text init := by
    induction text with
    | nil =>
        intro init
        rw [Nat.ofDigitChars_nil]
        rfl
    | cons c rest ih =>
        intro init
        rw [List.foldl_cons, Nat.ofDigitChars_cons, digitValue?_of_isDigit h.head]
        exact ih h.tail _
  exact hfold 0

theorem decimalDigits_allDigits (n : Nat) :
    AllDigits (decimalDigits n) := by
  intro c hmem
  exact Nat.isDigit_of_mem_toDigits (by decide) (by decide) hmem

theorem decimalDigits_ne_nil (n : Nat) :
    decimalDigits n ≠ [] :=
  Nat.toDigits_ne_nil

@[simp] theorem digitsValue_decimalDigits (n : Nat) :
    digitsValue (decimalDigits n) = n := by
  rw [digitsValue_eq_ofDigitChars (decimalDigits_allDigits n)]
  exact Nat.ofDigitChars_ten_toDigits

theorem digitsValue_zeros_append
    {text : List Char} (h : AllDigits text) (count : Nat) :
    digitsValue (List.replicate count '0' ++ text) = digitsValue text := by
  rw [digitsValue_eq_ofDigitChars ((AllDigits.zeros count).append h),
    digitsValue_eq_ofDigitChars h, Nat.ofDigitChars_append, Nat.ofDigitChars_replicate_zero,
    Nat.mul_zero]

theorem digitsValue_append_zeros
    {text : List Char} (h : AllDigits text) (count : Nat) :
    digitsValue (text ++ List.replicate count '0') = digitsValue text * 10 ^ count := by
  rw [digitsValue_eq_ofDigitChars (h.append (AllDigits.zeros count)),
    digitsValue_eq_ofDigitChars h, Nat.ofDigitChars_append, Nat.ofDigitChars_replicate_zero,
    Nat.mul_comm]

/-!
## The first digit
-/

theorem decimalDigits_zero :
    decimalDigits 0 = ['0'] := by
  decide

theorem decimalDigits_cons
    {n : Nat} (h : n ≠ 0) :
    exists c rest, decimalDigits n = c :: rest ∧ c ≠ '0' := by
  induction n using Nat.strongRecOn with
  | ind n ih =>
      by_cases hlt : n < 10
      · exists n.digitChar, []
        constructor
        · exact Nat.toDigits_of_lt_base hlt
        · intro hzero
          exact h (Nat.digitChar_eq_zero.mp hzero)
      · have hlarge : 10 ≤ n := by omega
        rcases ih (n / 10) (by omega) (by omega) with ⟨c, rest, hdigits, hne⟩
        exists c, rest ++ [(n % 10).digitChar]
        constructor
        · unfold decimalDigits at hdigits ⊢
          rw [Nat.toDigits_of_base_le (by decide) hlarge, hdigits]
          rfl
        · exact hne

theorem decimalDigits_injective
    {m n : Nat} (h : decimalDigits m = decimalDigits n) :
    m = n := by
  rw [← digitsValue_decimalDigits m, h, digitsValue_decimalDigits n]

theorem padZeros_allDigits
    {text : List Char} (h : AllDigits text) (length : Nat) :
    AllDigits (padZeros length text) :=
  (AllDigits.zeros _).append h

theorem digitsValue_padZeros
    {text : List Char} (h : AllDigits text) (length : Nat) :
    digitsValue (padZeros length text) = digitsValue text :=
  digitsValue_zeros_append h _

end CatalogSearch
