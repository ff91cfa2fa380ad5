import CatalogSearch.Text.Blank
import Mathlib.Data.List.DropRight

/-!
# Words of a text

The words of a text split at a blank, and everything else follows: joined words have the words
that were joined, and a blank more or less between two texts changes nothing.
-/

namespace CatalogSearch

namespace Text

structure IsWord (word : List Char) : Prop where
  ne_nil : word ≠ []
  solid : forall c : Char, c ∈ word -> isBlank c = false

theorem isBlank_space :
    isBlank ' ' = true := by
  decide

/-!
## Splitting at a blank
-/

theorem wordsAfter_solid
    {word : List Char} (current rest : List Char)
    (h : forall c : Char, c ∈ word -> isBlank c = false) :
    wordsAfter current (word ++ rest) = wordsAfter (word.reverse ++ current) rest := by
  induction word generalizing current with
  | nil => rfl
  | cons c word ih =>
      have hc : isBlank c = false := h c List.mem_cons_self
      have hrest := ih (c :: current) (fun d hmem => h d (List.mem_cons_of_mem c hmem))
      rw [List.cons_append, wordsAfter, hc, List.reverse_cons, List.append_assoc,
        List.singleton_append]
      exact hrest

theorem wordsAfter_append_blank
    {blank : Char} (current front back : List Char) (h : isBlank blank = true) :
    wordsAfter current (front ++ blank :: back) = wordsAfter current front ++ words back := by
  induction front generalizing current with
  | nil =>
      simp only [List.nil_append, wordsAfter, h, if_true]
      split
      · rfl
      · rfl
  | cons c front ih =>
      rw [List.cons_append, wordsAfter, wordsAfter]
      split
      · split
        · exact ih []
        · rw [ih [], List.cons_append]
      · exact ih (c :: current)

theorem words_append_blank
    {blank : Char} (front back : List Char) (h : isBlank blank = true) :
    words (front ++ blank :: back) = words front ++ words back :=
  wordsAfter_append_blank [] front back h

theorem words_word
    {word : List Char} (h : IsWord word) :
    words word = [word] := by
  have hsolid := wordsAfter_solid [] [] h.solid
  rw [List.append_nil, List.append_nil] at hsolid
  have hne : word.reverse ≠ [] := by
    intro hnil
    exact h.ne_nil (List.reverse_eq_nil_iff.mp hnil)
  rw [words, hsolid, wordsAfter, if_neg (by simpa using hne), List.reverse_reverse]

theorem words_word_blank
    {word : List Char} {blank : Char} (text : List Char) (h : IsWord word)
    (hblank : isBlank blank = true) :
    words (word ++ blank :: text) = word :: words text := by
  rw [words_append_blank word text hblank, words_word h, List.singleton_append]

theorem words_blanks_append
    {run : List Char} (hrun : forall c : Char, c ∈ run -> isBlank c = true) (text : List Char) :
    words (run ++ text) = words text := by
  induction run with
  | nil => rfl
  | cons c run ih =>
      rcases List.forall_mem_cons.mp hrun with ⟨hc, hrest⟩
      have hsplit := words_append_blank [] (run ++ text) hc
      rw [List.nil_append, words_nil, List.nil_append] at hsplit
      rw [List.cons_append, hsplit, ih hrest]

theorem words_append_of_blank_last
    {left : List Char} (hleft : forall c : Char, left.getLast? = some c -> isBlank c = true)
    (text : List Char) :
    words (left ++ text) = words left ++ words text := by
  rcases List.eq_nil_or_concat left with rfl | ⟨front, blank, rfl⟩
  · rfl
  · rw [List.concat_eq_append] at hleft ⊢
    have hblank := hleft blank List.getLast?_concat
    rw [List.append_assoc, List.singleton_append, words_append_blank front text hblank,
      words_append_blank front [] hblank, words_nil, List.append_nil]

theorem words_append_of_blank_head
    {right : List Char} (hright : forall c : Char, right.head? = some c -> isBlank c = true)
    (text : List Char) :
    words (text ++ right) = words text ++ words right := by
  cases right with
  | nil => rw [List.append_nil, words_nil, List.append_nil]
  | cons blank right =>
      have hblank := hright blank rfl
      have hrest := words_append_blank [] right hblank
      rw [List.nil_append, words_nil, List.nil_append] at hrest
      rw [words_append_blank text right hblank, hrest]

theorem wordsAfter_ne_nil
    {current : List Char} (h : current ≠ []) (text : List Char) :
    wordsAfter current text ≠ [] := by
  induction text generalizing current with
  | nil => simp [wordsAfter, h]
  | cons c text ih =>
      rw [wordsAfter]
      split
      · rw [if_neg (by simpa using h)]
        exact List.cons_ne_nil _ _
      · exact ih (List.cons_ne_nil c current)

theorem words_ne_nil
    {text : List Char} {c : Char} (hc : c ∈ text) (hsolid : isBlank c = false) :
    words text ≠ [] := by
  induction text with
  | nil => cases hc
  | cons d text ih =>
      cases hd : isBlank d with
      | true =>
          have htext : words (d :: text) = words text :=
            words_blanks_append (List.forall_mem_singleton.mpr hd) text
          rw [htext]
          rcases List.mem_cons.mp hc with rfl | hmem
          · rw [hd] at hsolid
            cases hsolid
          · exact ih hmem
      | false =>
          rw [words, wordsAfter, if_neg (by rw [hd]; exact Bool.false_ne_true)]
          exact wordsAfter_ne_nil (List.cons_ne_nil d []) text

/-!
## What words are made of
-/

theorem isWord_of_mem_wordsAfter
    {current text word : List Char} (hcurrent : forall c : Char, c ∈ current -> isBlank c = false)
    (hmem : word ∈ wordsAfter current text) :
    IsWord word := by
  have hdone : forall done : List Char, done ≠ [] ->
      (forall c : Char, c ∈ done -> isBlank c = false) -> IsWord done.reverse := by
    intro done hne hsolid
    constructor
    · intro hnil
      exact hne (List.reverse_eq_nil_iff.mp hnil)
    · intro c hc
      exact hsolid c (List.mem_reverse.mp hc)
  induction text generalizing current with
  | nil =>
      rw [wordsAfter] at hmem
      split at hmem
      · cases hmem
      · rename_i hne
        rw [List.mem_singleton.mp hmem]
        exact hdone current (by simpa using hne) hcurrent
  | cons c text ih =>
      rw [wordsAfter] at hmem
      have hnil : forall d : Char, d ∈ ([] : List Char) -> isBlank d = false := by
        intro d hd
        cases hd
      split at hmem
      · split at hmem
        · exact ih hnil hmem
        · rename_i hne
          rcases List.mem_cons.mp hmem with hfirst | hrest
          · rw [hfirst]
            exact hdone current (by simpa using hne) hcurrent
          · exact ih hnil hrest
      · rename_i hc
        apply ih _ hmem
        intro d hd
        rcases List.mem_cons.mp hd with rfl | hrest
        · simpa using hc
        · exact hcurrent d hrest

theorem isWord_of_mem_words
    {text word : List Char} (h : word ∈ words text) :
    IsWord word := by
  apply isWord_of_mem_wordsAfter _ h
  intro c hc
  cases hc

theorem mem_of_mem_wordsAfter
    {current text word : List Char} {c : Char} (hword : word ∈ wordsAfter current text)
    (hc : c ∈ word) :
    c ∈ current ∨ c ∈ text := by
  induction text generalizing current with
  | nil =>
      rw [wordsAfter] at hword
      split at hword
      · cases hword
      · rw [List.mem_singleton.mp hword] at hc
        exact Or.inl (List.mem_reverse.mp hc)
  | cons d text ih =>
      rw [wordsAfter] at hword
      split at hword
      · split at hword
        · rcases ih hword with hnil | htext
          · cases hnil
          · exact Or.inr (List.mem_cons_of_mem d htext)
        · rcases List.mem_cons.mp hword with hfirst | hrest
          · rw [hfirst] at hc
            exact Or.inl (List.mem_reverse.mp hc)
          · rcases ih hrest with hnil | htext
            · cases hnil
            · exact Or.inr (List.mem_cons_of_mem d htext)
      · rcases ih hword with hcurrent | htext
        · rcases List.mem_cons.mp hcurrent with heq | hbefore
          · exact Or.inr (heq ▸ List.mem_cons_self)
          · exact Or.inl hbefore
        · exact Or.inr (List.mem_cons_of_mem d htext)

theorem mem_of_mem_words
    {text word : List Char} {c : Char} (hword : word ∈ words text) (hc : c ∈ word) :
    c ∈ text :=
  (mem_of_mem_wordsAfter hword hc).resolve_left List.not_mem_nil

/-!
## Joined words
-/

theorem words_joinWords
    {list : List (List Char)} (h : forall word : List Char, word ∈ list -> IsWord word) :
    words (joinWords list) = list := by
  induction list with
  | nil => rfl
  | cons word rest ih =>
      have hword : IsWord word := h word List.mem_cons_self
      have hrest := ih (fun other hmem => h other (List.mem_cons_of_mem word hmem))
      cases rest with
      | nil => exact words_word hword
      | cons next rest =>
          rw [joinWords_cons_cons, words_word_blank _ hword isBlank_space, hrest]

theorem joinWords_append
    {front back : List (List Char)} (hfront : front ≠ []) (hback : back ≠ []) :
    joinWords (front ++ back) = joinWords front ++ ' ' :: joinWords back := by
  induction front with
  | nil => exact absurd rfl hfront
  | cons word rest ih =>
      cases rest with
      | nil =>
          rcases List.exists_cons_of_ne_nil hback with ⟨next, others, rfl⟩
          rfl
      | cons next rest =>
          have hrest := ih (List.cons_ne_nil next rest)
          rw [List.cons_append, List.cons_append, joinWords_cons_cons, joinWords_cons_cons,
            List.append_assoc, List.cons_append, ← List.cons_append, hrest]

theorem mem_joinWords
    {list : List (List Char)} {c : Char} (h : c ∈ joinWords list) :
    c = ' ' ∨ exists word : List Char, word ∈ list ∧ c ∈ word := by
  induction list with
  | nil => cases h
  | cons word rest ih =>
      cases rest with
      | nil => exact Or.inr ⟨word, List.mem_cons_self, h⟩
      | cons next rest =>
          rw [joinWords_cons_cons] at h
          rcases List.mem_append.mp h with hword | hrest
          · exact Or.inr ⟨word, List.mem_cons_self, hword⟩
          · rcases List.mem_cons.mp hrest with hspace | hrest
            · exact Or.inl hspace
            · rcases ih hrest with hspace | ⟨other, hother, hc⟩
              · exact Or.inl hspace
              · exact Or.inr ⟨other, List.mem_cons_of_mem word hother, hc⟩

theorem mem_collapse
    {text : List Char} {c : Char} (h : c ∈ collapse text) :
    c = ' ' ∨ c ∈ text := by
  rcases mem_joinWords h with hspace | ⟨word, hword, hc⟩
  · exact Or.inl hspace
  · exact Or.inr (mem_of_mem_words hword hc)

@[simp] theorem words_collapse (text : List Char) :
    words (collapse text) = words text :=
  words_joinWords (fun _ hmem => isWord_of_mem_words hmem)

@[simp] theorem collapse_collapse (text : List Char) :
    collapse (collapse text) = collapse text := by
  unfold collapse
  rw [words_joinWords (fun _ hmem => isWord_of_mem_words hmem)]

/-!
## Ends of a text
-/

theorem stripStart_stripEnd_stripStart (text : List Char) :
    stripStart (stripEnd (stripStart text)) = stripEnd (stripStart text) := by
  have hkept : stripEnd (stripStart text) <+: stripStart text :=
    List.rdropWhile_prefix isBlank _
  have hstart : stripStart (stripStart text) = stripStart text :=
    List.dropWhile_idempotent isBlank text
  cases hend : stripEnd (stripStart text) with
  | nil => rfl
  | cons c rest =>
      rw [hend] at hkept
      rcases hkept with ⟨back, hsplit⟩
      rw [← hsplit, List.cons_append] at hstart
      have hsolid := List.dropWhile_eq_self_iff.mp hstart (Nat.succ_pos _)
      exact List.dropWhile_eq_self_iff.mpr fun _ => hsolid

@[simp] theorem strip_strip (text : List Char) :
    strip (strip text) = strip text := by
  unfold strip
  rw [stripStart_stripEnd_stripStart]
  exact List.rdropWhile_idempotent isBlank _

structure SolidEnds (text : List Char) : Prop where
  head : forall c : Char, text.head? = some c -> isBlank c = false
  last : forall c : Char, text.getLast? = some c -> isBlank c = false

theorem solidEnds_iff (text : List Char) :
    SolidEnds text <-> strip text = text := by
  constructor
  · intro h
    have hstart : stripStart text = text := by
      apply List.dropWhile_eq_self_iff.mpr
      intro hpos
      rw [h.head _ (List.head?_eq_getElem? ▸ List.getElem?_eq_getElem hpos)]
      exact Bool.false_ne_true
    have hend : stripEnd text = text := by
      apply List.rdropWhile_eq_self_iff.mpr
      intro hne
      rw [h.last _ (List.getLast?_eq_some_getLast hne)]
      exact Bool.false_ne_true
    rw [strip, hstart, hend]
  · intro h
    have hend : List.rdropWhile isBlank text = text := by
      rw [← h]
      exact List.rdropWhile_idempotent isBlank _
    have hstart : List.dropWhile isBlank text = text := by
      rw [← h]
      exact stripStart_stripEnd_stripStart text
    constructor
    · intro c hc
      rw [← hstart] at hc
      have hnot := List.head?_dropWhile_not isBlank text
      rw [hc] at hnot
      exact hnot
    · intro c hc
      rcases List.getLast?_eq_some_iff.mp hc with ⟨front, rfl⟩
      have hlast := List.rdropWhile_eq_self_iff.mp hend (by simp)
      rw [List.getLast_concat] at hlast
      exact Bool.eq_false_iff.mpr hlast

theorem solidEnds_of_solid
    {text : List Char} (h : forall c : Char, c ∈ text -> isBlank c = false) :
    SolidEnds text :=
  ⟨fun c hc => h c (List.mem_of_head? hc), fun c hc => h c (List.mem_of_getLast? hc)⟩

theorem SolidEnds.append_cons
    {front back : List Char} {c : Char} (hfront : SolidEnds front) (hne : front ≠ [])
    (hback : SolidEnds back) (hne' : back ≠ []) :
    SolidEnds (front ++ c :: back) := by
  constructor
  · intro d hd
    rw [List.head?_append_of_ne_nil front hne] at hd
    exact hfront.head d hd
  · intro d hd
    rw [← List.singleton_append, ← List.append_assoc, List.getLast?_append_of_ne_nil _ hne'] at hd
    exact hback.last d hd

theorem solidEnds_joinWords
    {list : List (List Char)} (h : forall word : List Char, word ∈ list -> IsWord word) :
    SolidEnds (joinWords list) ∧ (list ≠ [] -> joinWords list ≠ []) := by
  induction list with
  | nil => exact ⟨⟨nofun, nofun⟩, fun hne => absurd rfl hne⟩
  | cons word rest ih =>
      have hword := h word List.mem_cons_self
      have hends := solidEnds_of_solid hword.solid
      cases rest with
      | nil => exact ⟨hends, fun _ => hword.ne_nil⟩
      | cons next rest =>
          rcases ih fun other hmem => h other (List.mem_cons_of_mem word hmem) with
            ⟨hrest, hne⟩
          rw [joinWords_cons_cons]
          exact ⟨hends.append_cons hword.ne_nil hrest (hne (List.cons_ne_nil next rest)),
            fun _ => List.append_ne_nil_of_left_ne_nil hword.ne_nil _⟩

theorem solidEnds_collapse (text : List Char) :
    SolidEnds (collapse text) :=
  (solidEnds_joinWords fun _ => isWord_of_mem_words).1

theorem strip_around
    {lead body trail : List Char} (hlead : forall c : Char, c ∈ lead -> isBlank c = true)
    (htrail : forall c : Char, c ∈ trail -> isBlank c = true) (hbody : SolidEnds body) :
    strip (lead ++ (body ++ trail)) = body := by
  have hdropped : stripStart (lead ++ (body ++ trail)) = stripStart (body ++ trail) :=
    List.dropWhile_append_of_pos hlead
  have hstart : stripEnd (stripStart (body ++ trail)) = stripEnd (body ++ trail) := by
    cases body with
    | nil =>
        have hnil : stripStart trail = [] := List.dropWhile_eq_nil_iff.mpr htrail
        have hend : stripEnd trail = [] := List.rdropWhile_eq_nil_iff.mpr htrail
        rw [List.nil_append, hnil, hend]
        rfl
    | cons c rest =>
        have hsolid := hbody.head c rfl
        rw [List.cons_append, stripStart, List.dropWhile_cons_of_neg (by rw [hsolid]; decide)]
  have hend : stripEnd (body ++ trail) = stripEnd body := by
    have htail : forall c : Char, c ∈ trail.reverse -> isBlank c = true :=
      fun c hmem => htrail c (List.mem_reverse.mp hmem)
    rw [stripEnd, List.reverse_append, List.dropWhile_append_of_pos htail, stripEnd]
  have hbodyStart : stripStart body = body := by
    rw [← (solidEnds_iff body).mp hbody]
    exact stripStart_stripEnd_stripStart body
  calc
    strip (lead ++ (body ++ trail)) = stripEnd body := by rw [strip, hdropped, hstart, hend]
    _ = strip body := by rw [strip, hbodyStart]
    _ = body := (solidEnds_iff body).mp hbody

theorem exists_around_strip (text : List Char) :
    exists lead trail : List Char, text = lead ++ (strip text ++ trail) ∧
      (forall c : Char, c ∈ lead -> isBlank c = true) ∧
        forall c : Char, c ∈ trail -> isBlank c = true := by
  refine ⟨text.takeWhile isBlank, (stripStart text).rtakeWhile isBlank, ?_,
    fun _ hmem => List.mem_takeWhile_imp hmem, fun _ hmem => List.mem_rtakeWhile_imp hmem⟩
  have hend : strip text ++ (stripStart text).rtakeWhile isBlank = stripStart text :=
    List.rdropWhile_append_rtakeWhile
  rw [hend, stripStart, List.takeWhile_append_dropWhile]

end Text

end CatalogSearch
