/-!
# Checks on characters

A decidable property of the characters of a list, or of the ASCII characters, is checked one
character at a time.
-/

namespace CatalogSearch

namespace Text

variable {P : Char -> Prop} [DecidablePred P] {c : Char}

@[elab_as_elim]
theorem forall_mem_of_check
    {list : List Char} (hmem : c ∈ list) (h : list.all (fun d => decide (P d)) = true) :
    P c :=
  of_decide_eq_true (List.all_eq_true.mp h c hmem)

@[elab_as_elim]
theorem forall_ascii
    (hc : c.toNat < 128)
    (h : (List.range 128).all (fun code => decide (P (Char.ofNat code))) = true) :
    P c := by
  have hcode := List.all_eq_true.mp h c.toNat (List.mem_range.mpr hc)
  rw [Char.ofNat_toNat] at hcode
  exact of_decide_eq_true hcode

theorem toLower_of_not_isUpper
    {c : Char} (h : ¬ c.isUpper = true) :
    c.toLower = c := by
  have hbounds : ¬ (c.val ≥ 'A'.val ∧ c.val ≤ 'Z'.val) :=
    fun hbounds => h (decide_eq_true hbounds)
  exact dif_neg hbounds

end Text

end CatalogSearch
