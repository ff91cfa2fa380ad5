import CatalogSearch.Proofs.Text.Characters
import CatalogSearch.Proofs.Text.Words
import CatalogSearch.Text.Transliteration
import Mathlib.Data.List.Chain

/-!
# Normal form

A text in normal form is made of the letters a to z and the digits, with single
spaces between them and none at its ends.  Those texts are the ones that
normalization leaves as they are, whatever the spelling of the characters
beyond ASCII, and every text is normalized to one of them.
-/

namespace CatalogSearch

namespace Text

structure IsNormal (text : List Char) : Prop where
  plain : forall c : Char, c ∈ text -> isPlain c = true ∨ c = ' '
  head : text.head? ≠ some ' '
  last : text.getLast? ≠ some ' '
  apart : text.IsChain fun c next => c ≠ ' ' ∨ next ≠ ' '

theorem isNormal_iff {text : List Char} :
    IsNormal text <->
      (text.all fun c => isPlain c || c == ' ') = true ∧ text.head? ≠ some ' ' ∧
        text.getLast? ≠ some ' ' ∧ text.IsChain fun c next => c ≠ ' ' ∨ next ≠ ' ' := by
  simp only [List.all_eq_true, Bool.or_eq_true, beq_iff_eq]
  exact ⟨fun h => ⟨h.plain, h.head, h.last, h.apart⟩,
    fun ⟨plain, head, last, apart⟩ => ⟨plain, head, last, apart⟩⟩

instance (text : List Char) : Decidable (IsNormal text) :=
  decidable_of_iff _ isNormal_iff.symm

structure IsPlainWord (word : List Char) : Prop where
  ne_nil : word ≠ []
  plain : forall c : Char, c ∈ word -> isPlain c = true

/-!
## Characters
-/

theorem isPlain_ascii {c : Char} (h : isPlain c = true) : c.toNat < 0x80 := by
  simp only [isPlain, Char.isDigit, Bool.or_eq_true, Bool.and_eq_true, decide_eq_true_iff,
    ge_iff_le, Char.le_def, UInt32.le_iff_toNat_le] at h
  have hdigit : ('9' : Char).val.toNat = 57 := rfl
  have hletter : ('z' : Char).val.toNat = 122 := rfl
  show c.val.toNat < 0x80
  omega

theorem plainOrSpace_of_isPlain {c : Char} (h : isPlain c = true) :
    plainOrSpace c = c ∧ isBlank c = false := by
  have hchecked : isPlain c = true -> plainOrSpace c = c ∧ isBlank c = false :=
    forall_ascii (isPlain_ascii h) (by decide)
  exact hchecked h

theorem plainOrSpace_cases (c : Char) :
    isPlain (plainOrSpace c) = true ∨ plainOrSpace c = ' ' := by
  unfold plainOrSpace
  split
  · exact Or.inl ‹_›
  · exact Or.inr rfl

theorem space_not_mem {text : List Char} (h : forall c : Char, c ∈ text -> isPlain c = true) :
    ' ' ∉ text := by
  intro hmem
  exact absurd (h ' ' hmem) (by decide)

/-!
## Normal forms are joined plain words
-/

theorem IsPlainWord.isWord {word : List Char} (h : IsPlainWord word) : IsWord word :=
  ⟨h.ne_nil, fun c hc => (plainOrSpace_of_isPlain (h.plain c hc)).2⟩

theorem isNormal_nil : IsNormal [] :=
  ⟨nofun, nofun, nofun, .nil⟩

theorem IsPlainWord.isNormal {word : List Char} (h : IsPlainWord word) : IsNormal word := by
  have hno := space_not_mem h.plain
  constructor
  · exact fun c hc => Or.inl (h.plain c hc)
  · exact fun hhead => hno (List.mem_of_head? hhead)
  · exact fun hlast => hno (List.mem_of_getLast? hlast)
  · apply List.Pairwise.isChain
    refine List.Pairwise.imp_of_mem ?_ (List.pairwise_of_forall fun _ _ => True.intro)
    intro c next hc _ _
    exact Or.inl fun heq => hno (heq ▸ hc)

theorem IsPlainWord.isNormal_append {word rest : List Char} (hword : IsPlainWord word)
    (hrest : IsNormal rest) (hne : rest ≠ []) : IsNormal (word ++ ' ' :: rest) := by
  have hno := space_not_mem hword.plain
  constructor
  · intro c hc
    rcases List.mem_append.mp hc with hleft | hright
    · exact Or.inl (hword.plain c hleft)
    · rcases List.mem_cons.mp hright with hspace | hright
      · exact Or.inr hspace
      · exact hrest.plain c hright
  · rw [List.head?_append_of_ne_nil word hword.ne_nil]
    exact hword.isNormal.head
  · rw [List.getLast?_append_of_ne_nil _ (List.cons_ne_nil ' ' rest),
      List.getLast?_cons_of_ne_nil hne]
    exact hrest.last
  · rw [List.isChain_append]
    refine ⟨hword.isNormal.apart, ?_, ?_⟩
    · rw [List.isChain_cons]
      refine ⟨?_, hrest.apart⟩
      intro next hnext
      exact Or.inr fun heq => hrest.head (heq ▸ hnext)
    · intro c hc _ _
      exact Or.inl fun heq => hno (heq ▸ List.mem_of_getLast? hc)

theorem IsNormal.cases {text : List Char} (h : IsNormal text) (hne : text ≠ []) :
    IsPlainWord text ∨ exists word rest : List Char,
      text = word ++ ' ' :: rest ∧ IsPlainWord word ∧ rest ≠ [] ∧ IsNormal rest := by
  by_cases hspace : ' ' ∈ text
  · right
    rcases List.eq_append_cons_of_mem hspace with ⟨word, rest, rfl, hno⟩
    rcases List.isChain_append.mp h.apart with ⟨_, hchain, _⟩
    rcases List.isChain_cons.mp hchain with ⟨hnext, hrest⟩
    have hrestNe : rest ≠ [] := by
      rintro rfl
      exact h.last List.getLast?_concat
    have hlast : rest.getLast? ≠ some ' ' := by
      intro hlast
      apply h.last
      rw [List.getLast?_append_of_ne_nil _ (List.cons_ne_nil ' ' rest),
        List.getLast?_cons_of_ne_nil hrestNe, hlast]
    refine ⟨word, rest, rfl, ⟨?_, ?_⟩, hrestNe, ⟨?_, ?_, hlast, hrest⟩⟩
    · rintro rfl
      exact h.head rfl
    · intro c hc
      exact (h.plain c (List.mem_append_left _ hc)).resolve_right fun heq => hno (heq ▸ hc)
    · exact fun c hc => h.plain c (List.mem_append_right _ (List.mem_cons_of_mem _ hc))
    · exact fun hhead => (hnext ' ' hhead).elim (fun hne => hne rfl) fun hne => hne rfl
  · left
    exact ⟨hne, fun c hc => (h.plain c hc).resolve_right fun heq => hspace (heq ▸ hc)⟩

theorem isNormal_joinWords {list : List (List Char)}
    (h : forall word : List Char, word ∈ list -> IsPlainWord word) : IsNormal (joinWords list) := by
  induction list with
  | nil => exact isNormal_nil
  | cons word rest ih =>
      have hword := h word List.mem_cons_self
      cases rest with
      | nil => exact hword.isNormal
      | cons next rest =>
          have hothers : forall other : List Char, other ∈ next :: rest -> IsPlainWord other :=
            fun other hmem => h other (List.mem_cons_of_mem word hmem)
          have hne : joinWords (next :: rest) ≠ [] :=
            (solidEnds_joinWords fun other hmem => (hothers other hmem).isWord).2
              (List.cons_ne_nil next rest)
          exact hword.isNormal_append (ih hothers) hne

theorem IsNormal.eq_joinWords {text : List Char} (h : IsNormal text) :
    exists list : List (List Char),
      text = joinWords list ∧ forall word : List Char, word ∈ list -> IsPlainWord word := by
  -- The rest after the first word is shorter.
  induction hlength : text.length using Nat.strongRecOn generalizing text with
  | ind length ih =>
      by_cases hne : text = []
      · exact ⟨[], hne, nofun⟩
      · rcases h.cases hne with hword | ⟨word, rest, htext, hword, hrestNe, hrest⟩
        · exact ⟨[text], rfl, List.forall_mem_singleton.mpr hword⟩
        · have hshorter : rest.length < length := by
            rw [← hlength, htext, List.length_append, List.length_cons]
            omega
          rcases ih rest.length hshorter hrest rfl with ⟨list, hlist, hplain⟩
          cases list with
          | nil => exact absurd hlist hrestNe
          | cons next others =>
              refine ⟨word :: next :: others, ?_, List.forall_mem_cons.mpr ⟨hword, hplain⟩⟩
              rw [joinWords_cons_cons, ← hlist, htext]

/-!
## Normalization
-/

section Normalization

variable {spell : Char -> List Char}

theorem isPlainWord_of_mem_plainWordsBy {text word : List Char}
    (h : word ∈ plainWordsBy spell text) : IsPlainWord word := by
  have hword := isWord_of_mem_words h
  refine ⟨hword.ne_nil, ?_⟩
  intro c hc
  rcases List.mem_map.mp (mem_of_mem_words h hc) with ⟨d, _, rfl⟩
  rcases plainOrSpace_cases d with hplain | hspace
  · exact hplain
  · have hsolid := hword.solid _ hc
    rw [hspace] at hsolid
    cases hsolid

theorem isNormal_normalizeBy (text : List Char) : IsNormal (normalizeBy spell text) :=
  isNormal_joinWords fun _ hmem => isPlainWord_of_mem_plainWordsBy hmem

theorem words_normalizeBy (spell : Char -> List Char) (text : List Char) :
    words (normalizeBy spell text) = plainWordsBy spell text :=
  words_joinWords fun _ hmem => (isPlainWord_of_mem_plainWordsBy hmem).isWord

theorem normalizeBy_of_isNormal {text : List Char}
    (hascii : forall c : Char, c.toNat < 0x80 -> spell c = [c]) (h : IsNormal text) :
    normalizeBy spell text = text := by
  have hspelled : text.flatMap spell = text.flatMap fun c => [c] := by
    refine List.flatMap_congr fun c hc => hascii c ?_
    rcases h.plain c hc with hplain | rfl
    · exact isPlain_ascii hplain
    · decide
  have hcounted : text.map plainOrSpace = text.map fun c => c := by
    refine List.map_congr_left fun c hc => ?_
    rcases h.plain c hc with hplain | rfl
    · exact (plainOrSpace_of_isPlain hplain).1
    · decide
  rcases h.eq_joinWords with ⟨list, htext, hlist⟩
  calc
    normalizeBy spell text = joinWords (words text) := by
      rw [normalizeBy, plainWordsBy, hspelled, List.flatMap_singleton', hcounted, List.map_id']
    _ = text := by
      rw [htext, words_joinWords fun word hmem => (hlist word hmem).isWord]

theorem plainWordsBy_append_space (front back : List Char) (hspace : spell ' ' = [' ']) :
    plainWordsBy spell (front ++ ' ' :: back) =
      plainWordsBy spell front ++ plainWordsBy spell back := by
  unfold plainWordsBy
  rw [List.flatMap_append, List.flatMap_cons, hspace, List.map_append, List.singleton_append,
    List.map_cons]
  exact words_append_blank _ _ (by decide)

theorem joinWords_append_filter {front back : List (List Char)}
    (hfront : forall word : List Char, word ∈ front -> IsWord word)
    (hback : forall word : List Char, word ∈ back -> IsWord word) :
    joinWords (front ++ back) =
      joinWords ([joinWords front, joinWords back].filter fun text => text ≠ []) := by
  by_cases hnoFront : front = []
  · rw [hnoFront]
    by_cases hnoBack : back = []
    · rw [hnoBack]
      rfl
    · have hne := (solidEnds_joinWords hback).2 hnoBack
      simp [hne]
  · have hne := (solidEnds_joinWords hfront).2 hnoFront
    by_cases hnoBack : back = []
    · rw [hnoBack]
      simp [hne]
    · have hneBack := (solidEnds_joinWords hback).2 hnoBack
      rw [joinWords_append hnoFront hnoBack]
      simp [hne, hneBack, joinWords_cons_cons]

theorem normalizeBy_append_space (front back : List Char) (hspace : spell ' ' = [' ']) :
    normalizeBy spell (front ++ ' ' :: back) =
      joinWords ([normalizeBy spell front, normalizeBy spell back].filter
        fun text => text ≠ []) := by
  have hwords : forall text word : List Char, word ∈ plainWordsBy spell text -> IsWord word :=
    fun _ _ hmem => isWord_of_mem_words hmem
  rw [normalizeBy, plainWordsBy_append_space front back hspace]
  exact joinWords_append_filter (hwords front) (hwords back)

end Normalization

/-- What makes a function on texts a projection onto the texts in normal form. -/
structure ProjectsOntoNormal (normal : List Char -> List Char) : Prop where
  /-- The result is in normal form. -/
  isNormal : forall text : List Char, IsNormal (normal text)
  /-- What is in normal form, and nothing else, stays as it is. -/
  fixed_iff : forall text : List Char, normal text = text <-> IsNormal text
  /-- The second time changes nothing. -/
  twice : forall text : List Char, normal (normal text) = normal text
  /-- Of two texts with a space between them, what is left of each is joined by a space. -/
  append_space : forall front back : List Char,
    normal (front ++ ' ' :: back) =
      joinWords ([normal front, normal back].filter fun text => text ≠ [])

/-- Normalization projects onto the normal forms for every spelling that leaves ASCII as it is. -/
theorem normalizeBy_projects {spell : Char -> List Char}
    (hascii : forall c : Char, c.toNat < 0x80 -> spell c = [c]) :
    ProjectsOntoNormal (normalizeBy spell) := by
  constructor
  · exact isNormal_normalizeBy
  · intro text
    constructor
    · intro hfixed
      exact hfixed ▸ isNormal_normalizeBy text
    · exact normalizeBy_of_isNormal hascii
  · exact fun text => normalizeBy_of_isNormal hascii (isNormal_normalizeBy text)
  · exact fun front back => normalizeBy_append_space front back (hascii ' ' (by decide))

theorem normalizeBy_projects_asciiSpelling :
    (forall c : Char, c.toNat < 0x80 -> asciiSpelling c = [c]) ∧
      IsNormal (normalize "Crème -- BRÛLÉE!".toList) ∧
      normalize "creme brulee".toList = "creme brulee".toList ∧
      normalize ("?!".toList ++ ' ' :: "Crème  BRÛLÉE".toList) = "creme brulee".toList := by
  have hascii : forall c : Char, c.toNat < 0x80 -> asciiSpelling c = [c] :=
    fun _ hc => if_pos hc
  have hprojects := normalizeBy_projects hascii
  refine ⟨hascii, hprojects.isNormal _, (hprojects.fixed_iff _).mpr ?_, ?_⟩
  · decide
  · refine (hprojects.append_space _ _).trans ?_
    decide

end Text

end CatalogSearch
