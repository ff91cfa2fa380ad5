import CatalogSearch.Text.Occurrence

/-!
# Occurrences as parts of a text

The tests for an occurrence decide the list relations: a text starts with its
prefixes and a part occurs in it exactly when it is one of its infixes.  What is
left when an occurrence is blanked are characters of the text and a space.
-/

namespace CatalogSearch

namespace Text

theorem startsWith_iff_isPrefix {part text : List Char} :
    startsWith part text = true <-> part <+: text := by
  unfold startsWith
  constructor
  · intro h
    rcases Option.isSome_iff_exists.mp h with ⟨rest, hrest⟩
    exact ⟨rest, (dropLead?_eq_some.mp hrest).symm⟩
  · intro h
    rcases h with ⟨rest, rfl⟩
    rw [dropLead?_append]
    rfl

theorem occursIn_iff_isInfix {part text : List Char} :
    occursIn part text = true <-> part <:+: text := by
  induction text with
  | nil => simp [occursIn, List.isEmpty_iff]
  | cons c text ih =>
      unfold occursIn
      rw [Bool.or_eq_true, ih, startsWith_iff_isPrefix, List.infix_cons_iff]

/-!
## What is left when an occurrence is blanked
-/

/-- A part that occurs is replaced by a space, and a text without it stays as it is. -/
theorem blankFirst_cases (part text : List Char) :
    blankFirst part text = text ∨ exists before after : List Char,
      text = before ++ (part ++ after) ∧ blankFirst part text = before ++ ' ' :: after := by
  induction text with
  | nil =>
      rw [blankFirst]
      split
      · rename_i hempty
        rw [List.isEmpty_iff.mp hempty]
        exact Or.inr ⟨[], [], rfl, rfl⟩
      · exact Or.inl rfl
  | cons c text ih =>
      rw [blankFirst]
      split
      · rename_i rest hlead
        have htext : c :: text = part ++ rest := dropLead?_eq_some.mp hlead
        exact Or.inr ⟨[], rest, htext, rfl⟩
      · rcases ih with hsame | ⟨before, after, htext, hcut⟩
        · exact Or.inl (congrArg (c :: ·) hsame)
        · exact Or.inr ⟨c :: before, after, congrArg (c :: ·) htext, congrArg (c :: ·) hcut⟩

theorem mem_of_mem_blankFirst
    {part text : List Char} {c : Char} (h : c ∈ blankFirst part text) :
    c = ' ' ∨ c ∈ text := by
  induction text with
  | nil =>
      rw [blankFirst] at h
      split at h
      · exact Or.inl (List.mem_singleton.mp h)
      · cases h
  | cons d text ih =>
      rw [blankFirst] at h
      split at h
      · rename_i rest hlead
        rcases List.mem_cons.mp h with hspace | hrest
        · exact Or.inl hspace
        · rw [dropLead?_eq_some.mp hlead]
          exact Or.inr (List.mem_append_right _ hrest)
      · rcases List.mem_cons.mp h with heq | hrest
        · exact Or.inr (heq ▸ List.mem_cons_self)
        · rcases ih hrest with hspace | htext
          · exact Or.inl hspace
          · exact Or.inr (List.mem_cons_of_mem d htext)

end Text

end CatalogSearch
