import CatalogSearch.Proofs.Text.Words

/-!
# Properties of a text word by word

Some properties hold of a text exactly if they hold of one of its words: what has them does not
reach over a blank.  They do not depend on the white space between the words and at the ends of
a text.
-/

namespace CatalogSearch

namespace Text

structure WordByWord (property : List Char -> Prop) : Prop where
  nil : ¬ property []
  blank : forall {blank : Char} (front back : List Char), isBlank blank = true ->
    (property (front ++ blank :: back) <-> property front ∨ property back)

namespace WordByWord

variable {property : List Char -> Prop} (h : WordByWord property)

include h

theorem iff_wordsAfter
    {current : List Char} (hcurrent : forall c : Char, c ∈ current -> isBlank c = false)
    (text : List Char) :
    property (current.reverse ++ text) <->
      exists word : List Char, word ∈ wordsAfter current text ∧ property word := by
  have hnil : forall c : Char, c ∈ ([] : List Char) -> isBlank c = false :=
    fun _ hmem => absurd hmem List.not_mem_nil
  induction text generalizing current with
  | nil =>
      rw [List.append_nil, wordsAfter]
      split
      · rename_i hempty
        rw [List.isEmpty_iff.mp hempty]
        apply iff_of_false h.nil
        rintro ⟨_, hmem, _⟩
        cases hmem
      · constructor
        · exact fun hproperty => ⟨_, List.mem_singleton.mpr rfl, hproperty⟩
        · rintro ⟨word, hmem, hproperty⟩
          rw [← List.mem_singleton.mp hmem]
          exact hproperty
  | cons c text ih =>
      rw [wordsAfter]
      cases hc : isBlank c with
      | true =>
          have hrest : property text <->
              exists word : List Char, word ∈ wordsAfter [] text ∧ property word := ih hnil
          rw [if_pos rfl, h.blank current.reverse text hc]
          split
          · rename_i hempty
            rw [List.isEmpty_iff.mp hempty, List.reverse_nil, or_iff_right h.nil]
            exact hrest
          · rw [hrest]
            simp only [List.mem_cons, exists_eq_or_imp]
      | false =>
          have hword := ih (List.forall_mem_cons.mpr ⟨hc, hcurrent⟩)
          rw [List.reverse_cons, List.append_assoc, List.singleton_append] at hword
          rw [if_neg Bool.false_ne_true]
          exact hword

theorem iff_words (text : List Char) :
    property text <-> exists word : List Char, word ∈ words text ∧ property word :=
  h.iff_wordsAfter (fun _ hmem => absurd hmem List.not_mem_nil) text

theorem collapse_iff (text : List Char) :
    property (collapse text) <-> property text := by
  rw [h.iff_words, words_collapse, ← h.iff_words]

theorem blanks_append_iff
    {blanks : List Char} (hblanks : forall c : Char, c ∈ blanks -> isBlank c = true)
    (text : List Char) :
    property (blanks ++ text) <-> property text := by
  induction blanks with
  | nil => exact Iff.rfl
  | cons c blanks ih =>
      rcases List.forall_mem_cons.mp hblanks with ⟨hc, hrest⟩
      have hblank := h.blank [] (blanks ++ text) hc
      rw [List.nil_append, or_iff_right h.nil, ih hrest] at hblank
      exact hblank

theorem append_blanks_iff
    {blanks : List Char} (hblanks : forall c : Char, c ∈ blanks -> isBlank c = true)
    (text : List Char) :
    property (text ++ blanks) <-> property text := by
  cases blanks with
  | nil => rw [List.append_nil]
  | cons c blanks =>
      rcases List.forall_mem_cons.mp hblanks with ⟨hc, hrest⟩
      have hnone : ¬ property blanks := by
        rw [← List.append_nil blanks, h.blanks_append_iff hrest]
        exact h.nil
      rw [h.blank text blanks hc, or_iff_left hnone]

theorem strip_iff (text : List Char) :
    property (strip text) <-> property text := by
  have hstart : property (stripStart text) <-> property text := by
    have hlead : forall c : Char, c ∈ text.takeWhile isBlank -> isBlank c = true :=
      fun _ hmem => List.mem_takeWhile_imp hmem
    rw [← h.blanks_append_iff hlead, stripStart, List.takeWhile_append_dropWhile]
  have hend : property (stripEnd (stripStart text)) <-> property (stripStart text) := by
    have htrail : forall c : Char, c ∈ (stripStart text).rtakeWhile isBlank -> isBlank c = true :=
      fun _ hmem => List.mem_rtakeWhile_imp hmem
    rw [← h.append_blanks_iff htrail]
    exact iff_of_eq (congrArg property List.rdropWhile_append_rtakeWhile)
  rw [strip, hend, hstart]

end WordByWord

/-!
## Solid parts
-/

theorem infix_blank_iff
    {part : List Char} {blank : Char} (hne : part ≠ []) (hblank : blank ∉ part)
    (front back : List Char) :
    part <:+: front ++ blank :: back <-> part <:+: front ∨ part <:+: back := by
  constructor
  · rintro ⟨left, right, hsplit⟩
    rw [List.append_assoc] at hsplit
    rcases List.append_eq_append_iff.mp hsplit with ⟨rest, hfront, hrest⟩ | ⟨rest, _, hrest⟩
    · rcases List.append_eq_append_iff.mp hrest with ⟨tail, hpart, _⟩ | ⟨tail, hpart, htail⟩
      · left
        rw [hfront, hpart]
        exact List.infix_append' left part tail
      · cases tail with
        | nil =>
            left
            rw [hfront, hpart, List.append_nil]
            exact (List.suffix_append left rest).isInfix
        | cons c tail =>
            rw [hpart, (List.cons.inj htail).1] at hblank
            exact absurd (List.mem_append_right _ List.mem_cons_self) hblank
    · cases rest with
      | nil =>
          cases part with
          | nil => exact absurd rfl hne
          | cons c part =>
              rw [(List.cons.inj hrest).1] at hblank
              exact absurd List.mem_cons_self hblank
      | cons c rest =>
          right
          rw [(List.cons.inj hrest).2]
          exact List.infix_append' rest part right
  · rintro (hfront | hback)
    · exact hfront.trans (List.prefix_append front _).isInfix
    · exact hback.trans ⟨front ++ [blank], [], by simp⟩

/-- A part without white space is in a text exactly if it is in one of its words. -/
theorem wordByWord_infix
    {part : List Char} (hne : part ≠ []) (hpart : forall c : Char, c ∈ part -> isBlank c = false) :
    WordByWord fun text => part <:+: text := by
  constructor
  · exact fun h => hne (List.infix_nil.mp h)
  · intro blank front back hblank
    apply infix_blank_iff hne
    intro hmem
    rw [hpart blank hmem] at hblank
    cases hblank

end Text

end CatalogSearch
