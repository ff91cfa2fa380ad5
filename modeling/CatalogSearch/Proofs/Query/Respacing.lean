import CatalogSearch.Proofs.Query.Agreement
import CatalogSearch.Proofs.Text.Words

/-!
# White space between the parts of phrases

A phrase is found in a text exactly if it is found in the text with its white
space collapsed.
-/

namespace CatalogSearch

open Text

/-- Texts that differ in the length of their stretches of white space, the last stretch perhaps
missing. -/
inductive Respaced : List Char -> List Char -> Prop
  | blank {run run' : List Char} :
      (forall c : Char, c ∈ run -> isBlank c = true) ->
      (forall c : Char, c ∈ run' -> isBlank c = true) -> Respaced run run'
  | solid {c : Char} {text text' : List Char} :
      isBlank c = false -> Respaced text text' -> Respaced (c :: text) (c :: text')
  | spaced {run run' : List Char} {c : Char} {text text' : List Char} :
      run ≠ [] -> run' ≠ [] -> (forall c : Char, c ∈ run -> isBlank c = true) ->
      (forall c : Char, c ∈ run' -> isBlank c = true) -> isBlank c = false ->
      Respaced text text' -> Respaced (run ++ c :: text) (run' ++ c :: text')

namespace Respaced

theorem symm {text text' : List Char} (h : Respaced text text') :
    Respaced text' text := by
  induction h with
  | blank hrun hrun' => exact .blank hrun' hrun
  | solid hc _ ih => exact .solid hc ih
  | spaced hne hne' hrun hrun' hc _ ih => exact .spaced hne' hne hrun' hrun hc ih

theorem ahead {c : Char} {text rest' : List Char} (h : Respaced (c :: text) rest')
    (hc : isBlank c = false) :
    exists text' : List Char, rest' = c :: text' ∧ Respaced text text' := by
  generalize hrest : c :: text = rest at h
  cases h with
  | blank hrun _ =>
      have hblank := hrun c (hrest ▸ List.mem_cons_self)
      rw [hc] at hblank
      cases hblank
  | @solid d _ text' _ htail =>
      injection hrest with hhead htext
      rw [← hhead, htext]
      exact ⟨text', rfl, htail⟩
  | @spaced run run' d _ text' hne _ hrun _ _ _ =>
      cases run with
      | nil => exact absurd rfl hne
      | cons e run =>
          injection hrest with hhead _
          have hblank := hrun e List.mem_cons_self
          rw [← hhead, hc] at hblank
          cases hblank

def Spots (spot spot' : Spot) : Prop :=
  spot'.prev.any isWordChar = spot.prev.any isWordChar ∧ Respaced spot.rest spot'.rest

theorem takeWhile_blank {run : List Char} (hrun : forall c : Char, c ∈ run -> isBlank c = true) :
    run.takeWhile isBlank = run ∧ run.dropWhile isBlank = [] := by
  have h := @Pattern.takeWhile_run isBlank run [] hrun nofun
  rw [List.append_nil] at h
  exact h

theorem takeWhile_spaced {run : List Char} {c : Char}
    (hrun : forall c : Char, c ∈ run -> isBlank c = true) (hc : isBlank c = false)
    (text : List Char) :
    (run ++ c :: text).takeWhile isBlank = run ∧
      (run ++ c :: text).dropWhile isBlank = c :: text := by
  apply Pattern.takeWhile_run hrun
  intro d hd
  rw [← Option.some.inj hd]
  exact hc

theorem not_isWordChar_last {run : List Char} (hne : run ≠ [])
    (hrun : forall c : Char, c ∈ run -> isBlank c = true) (prev : Option Char) :
    (run.getLast?.or prev).any isWordChar = false := by
  rw [List.getLast?_eq_some_getLast hne]
  exact not_isWordChar_of_isBlank (hrun _ (List.getLast_mem hne))

theorem tracks : Tracks [] Spots := by
  constructor
  · intro spot spot' h
    exact h.1
  · intro prev c text spot' h hc
    rcases h.2.ahead hc with ⟨text', hrest, htext⟩
    exact ⟨text', hrest, rfl, htext⟩
  · intro prev' c text' spot h hc
    rcases h.2.symm.ahead hc with ⟨text, hrest, htext⟩
    exact ⟨text, hrest, rfl, htext.symm⟩
  · intro spot spot' h
    rcases spot with ⟨prev, rest⟩
    rcases spot' with ⟨prev', rest'⟩
    rcases h with ⟨hword, hrest⟩
    simp only [Spot.overBlanks, Spot.Stops, Spots] at hword hrest ⊢
    cases hrest with
    | blank hrun hrun' =>
        right
        rw [(takeWhile_blank hrun).2, (takeWhile_blank hrun').2]
        constructor <;> intro c hc <;> cases hc
    | solid hc htext =>
        left
        simp only [List.takeWhile_cons, List.dropWhile_cons, hc]
        exact ⟨⟨hword, .solid hc htext⟩, Iff.rfl⟩
    | spaced hne hne' hrun hrun' hc htext =>
        left
        rw [(takeWhile_spaced hrun hc _).1, (takeWhile_spaced hrun hc _).2,
          (takeWhile_spaced hrun' hc _).1, (takeWhile_spaced hrun' hc _).2,
          not_isWordChar_last hne hrun, not_isWordChar_last hne' hrun']
        exact ⟨⟨rfl, .solid hc htext⟩, iff_of_false hne hne'⟩

end Respaced

/-!
## Collapsed white space
-/

theorem words_blank {run : List Char} (hrun : forall c : Char, c ∈ run -> isBlank c = true) :
    words run = [] := by
  rw [← List.append_nil run, words_blanks_append hrun, words_nil]

theorem joinWords_cons (word : List Char) (rest : List (List Char)) :
    joinWords (word :: rest) =
      word ++ if rest = [] then [] else ' ' :: joinWords rest := by
  cases rest with
  | nil => rw [if_pos rfl, List.append_nil]; rfl
  | cons next rest => rw [if_neg (List.cons_ne_nil _ _)]; rfl

theorem length_joinWords_wordsAfter (current text : List Char) :
    (joinWords (wordsAfter current text)).length ≤ current.length + text.length := by
  induction text generalizing current with
  | nil =>
      rw [wordsAfter]
      split
      · exact Nat.zero_le _
      · rw [joinWords_singleton, List.length_reverse]
        exact Nat.le_refl _
  | cons c text ih =>
      have hrest := ih []
      have hnext := ih (c :: current)
      rw [List.length_nil] at hrest
      rw [List.length_cons] at hnext ⊢
      rw [wordsAfter]
      split
      · split
        · omega
        · rw [joinWords_cons, List.length_append, List.length_reverse]
          split
          · rw [List.length_nil]
            omega
          · rw [List.length_cons]
            omega
      · omega

theorem length_collapse_le (text : List Char) :
    (collapse text).length ≤ text.length := by
  have h := length_joinWords_wordsAfter [] text
  rw [List.length_nil, Nat.zero_add] at h
  exact h

/-- White space before words is one space of the collapsed text, and none of it without words. -/
theorem respaced_blank_cons
    {c : Char} {text : List Char} (hc : isBlank c = true)
    (h : Respaced (text.dropWhile isBlank) (collapse text)) :
    Respaced (c :: text) (if words text = [] then [] else ' ' :: collapse text) := by
  cases hdrop : text.dropWhile isBlank with
  | nil =>
      have hall : forall d : Char, d ∈ text -> isBlank d = true := by
        intro d hd
        exact List.dropWhile_eq_nil_iff.mp hdrop d hd
      rw [if_pos (words_blank hall)]
      exact .blank (List.forall_mem_cons.mpr ⟨hc, hall⟩) nofun
  | cons d rest =>
      have hd : isBlank d = false := Pattern.head_dropWhile (by rw [hdrop]; rfl)
      rw [hdrop] at h
      rcases h.ahead hd with ⟨text', hcollapse, htext'⟩
      have hne : words text ≠ [] := by
        intro hnil
        rw [collapse, hnil] at hcollapse
        cases hcollapse
      have hsplit : c :: text = (c :: text.takeWhile isBlank) ++ d :: rest := by
        rw [← hdrop, List.cons_append, List.takeWhile_append_dropWhile]
      rw [if_neg hne, hcollapse, hsplit]
      refine .spaced (List.cons_ne_nil _ _) (List.cons_ne_nil ' ' []) ?_ ?_ hd htext'
      · intro e he
        rcases List.mem_cons.mp he with rfl | he
        · exact hc
        · exact Pattern.mem_takeWhile he
      · intro e he
        rw [List.mem_singleton.mp he]
        exact isBlank_space

/-- Behind a word in progress its text is the same up to white space, and so it is behind the white
space before the first word. -/
theorem respaced_wordsAfter (text : List Char) :
    (exists tail : List Char, Respaced text tail ∧
        forall current : List Char, current ≠ [] ->
          joinWords (wordsAfter current text) = current.reverse ++ tail) ∧
      Respaced (text.dropWhile isBlank) (collapse text) := by
  induction text with
  | nil =>
      refine ⟨⟨[], .blank nofun nofun, ?_⟩, .blank nofun nofun⟩
      intro current hne
      rw [wordsAfter, if_neg (by simpa using hne), List.append_nil]
      rfl
  | cons c text ih =>
      rcases ih with ⟨⟨tail, htail, hjoin⟩, hrest⟩
      cases hc : isBlank c with
      | false =>
          have hsolid : forall current : List Char,
              joinWords (wordsAfter current (c :: text)) = current.reverse ++ c :: tail := by
            intro current
            rw [wordsAfter, hc, if_neg Bool.false_ne_true, hjoin _ (List.cons_ne_nil _ _),
              List.reverse_cons, List.append_assoc]
            rfl
          refine ⟨⟨c :: tail, .solid hc htail, fun current _ => hsolid current⟩, ?_⟩
          have hcollapse : collapse (c :: text) = c :: tail := hsolid []
          rw [List.dropWhile_cons, hc, hcollapse]
          exact .solid hc htail
      | true =>
          have hblank : words (c :: text) = words text := words_append_blank [] text hc
          refine ⟨⟨if words text = [] then [] else ' ' :: collapse text, ?_, ?_⟩, ?_⟩
          · exact respaced_blank_cons hc hrest
          · intro current hne
            rw [wordsAfter, hc, if_pos rfl, if_neg (by simpa using hne), joinWords_cons]
            rfl
          · rw [List.dropWhile_cons, hc, collapse, hblank]
            exact hrest

namespace Pattern

variable {α : Type}

/-!
## Search in a respaced text
-/

def OpensSolid (pattern : Pattern α) : Prop :=
  forall (prev : Option Char) (text : List Char) (hit : Hit α), pattern prev text = some hit ->
    exists c : Char, text.head? = some c ∧ isBlank c = false

theorem searchFrom_blank
    {pattern : Pattern α} (hopens : OpensSolid pattern) {run : List Char}
    (hrun : forall c : Char, c ∈ run -> isBlank c = true) (prev : Option Char) (text : List Char) :
    (searchFrom pattern prev (run ++ text)).isSome =
      (searchFrom pattern (run.getLast?.or prev) text).isSome := by
  induction run generalizing prev with
  | nil => rfl
  | cons c run ih =>
      have hnone : pattern prev (c :: (run ++ text)) = none := by
        cases hhit : pattern prev (c :: (run ++ text)) with
        | none => rfl
        | some hit =>
            rcases hopens _ _ _ hhit with ⟨d, hhead, hd⟩
            rw [← Option.some.inj hhead, hrun c List.mem_cons_self] at hd
            cases hd
      rw [List.cons_append, searchFrom, hnone, Option.isSome_map,
        ih (fun d hd => hrun d (List.mem_cons_of_mem c hd)), getLast?_cons_or]

theorem searchFrom_respaced
    {pattern : Pattern α} (hopens : OpensSolid pattern) (hagrees : Agrees Respaced.Spots pattern)
    {text text' : List Char} (h : Respaced text text') {prev prev' : Option Char}
    (hprev : prev'.any isWordChar = prev.any isWordChar) :
    (searchFrom pattern prev text).isSome = (searchFrom pattern prev' text').isSome := by
  have hsolid : forall {c : Char} {text text' : List Char} {prev prev' : Option Char},
      isBlank c = false -> Respaced text text' -> prev'.any isWordChar = prev.any isWordChar ->
      (searchFrom pattern (some c) text).isSome = (searchFrom pattern (some c) text').isSome ->
      (searchFrom pattern prev (c :: text)).isSome =
        (searchFrom pattern prev' (c :: text')).isSome := by
    intro c text text' prev prev' hc htext hprev ih
    have hspots : Respaced.Spots ⟨prev, c :: text⟩ ⟨prev', c :: text'⟩ := ⟨hprev, .solid hc htext⟩
    rw [searchFrom, searchFrom]
    rcases rel_cases (hagrees _ _ hspots) with
      ⟨hnone, hnone'⟩ | ⟨hit, hit', hhit, hhit', _⟩
    · rw [hnone, hnone', Option.isSome_map, Option.isSome_map]
      exact ih
    · rw [hhit, hhit']
      rfl
  induction h generalizing prev prev' with
  | @blank run run' hrun hrun' =>
      have hend : forall prev : Option Char, (searchFrom pattern prev []).isSome = false := by
        intro prev
        cases hhit : pattern prev [] with
        | none => rw [searchFrom, hhit]; rfl
        | some hit =>
            rcases hopens _ _ _ hhit with ⟨c, hhead, _⟩
            cases hhead
      have hleft := searchFrom_blank hopens hrun prev []
      have hright := searchFrom_blank hopens hrun' prev' []
      rw [List.append_nil, hend] at hleft hright
      rw [hleft, hright]
  | solid hc htext ih => exact hsolid hc htext hprev (ih rfl)
  | spaced hne hne' hrun hrun' hc htext ih =>
      rw [searchFrom_blank hopens hrun, searchFrom_blank hopens hrun']
      apply hsolid hc htext _ (ih rfl)
      rw [Respaced.not_isWordChar_last hne hrun, Respaced.not_isWordChar_last hne' hrun']

/-- A pattern is found in a text exactly if it is found with the white space collapsed. -/
theorem search_collapse
    {pattern : Pattern α} (hopens : OpensSolid pattern) (hagrees : Agrees Respaced.Spots pattern)
    (text : List Char) :
    (pattern.search (collapse text)).isSome = (pattern.search text).isSome := by
  have hlead : (pattern.search text).isSome =
      (searchFrom pattern ((text.takeWhile isBlank).getLast?.or none)
        (text.dropWhile isBlank)).isSome := by
    rw [← searchFrom_blank hopens (fun _ => mem_takeWhile), List.takeWhile_append_dropWhile]
    rfl
  rw [hlead]
  refine (searchFrom_respaced hopens hagrees (respaced_wordsAfter text).2 ?_).symm
  cases hrun : text.takeWhile isBlank with
  | nil => rfl
  | cons c run =>
      rw [Respaced.not_isWordChar_last (List.cons_ne_nil c run)]
      · rfl
      · rw [← hrun]
        exact fun _ => mem_takeWhile

end Pattern

end CatalogSearch
