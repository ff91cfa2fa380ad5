import CatalogSearch.Proofs.Text.Words

/-!
# Words that are left untouched

Some places of a text are blanked.  A word with none of them is a word of what is left, and
such words keep their order.
-/

namespace CatalogSearch

namespace Text

/-!
## Runs between separators
-/

variable {α : Type}

/-- The runs that remain after the elements of a run in progress, given in reverse. -/
def runsAfter (separates : α -> Bool) (current : List α) : List α -> List (List α)
  | [] => if current.isEmpty then [] else [current.reverse]
  | a :: rest =>
      if separates a then
        if current.isEmpty then runsAfter separates [] rest
        else current.reverse :: runsAfter separates [] rest
      else runsAfter separates (a :: current) rest

def runs (separates : α -> Bool) (list : List α) : List (List α) :=
  runsAfter separates [] list

/-- The words of a text of marked characters are its runs, once the marks are forgotten. -/
theorem wordsAfter_map
    {separates : α -> Bool} {char : α -> Char}
    (h : forall a : α, separates a = isBlank (char a)) (current list : List α) :
    wordsAfter (current.map char) (list.map char) =
      (runsAfter separates current list).map (List.map char) := by
  induction list generalizing current with
  | nil =>
      cases current with
      | nil => rfl
      | cons a current =>
          simp [wordsAfter, runsAfter]
  | cons a list ih =>
      rw [List.map_cons, wordsAfter, runsAfter, h a]
      split
      · cases current with
        | nil => exact ih []
        | cons b current =>
            have hrest := ih []
            rw [List.map_nil] at hrest
            simp [hrest]
      · exact ih (a :: current)

theorem words_map
    {separates : α -> Bool} {char : α -> Char}
    (h : forall a : α, separates a = isBlank (char a)) (list : List α) :
    words (list.map char) = (runs separates list).map (List.map char) :=
  wordsAfter_map h [] list

/-- A run that ends is kept if it has no touched element, and then the other run is the same. -/
theorem endRun_sublist
    {touched : α -> Bool} {current other : List α} {rest rest' : List (List α)}
    (hcurrent : current = other ∨ exists a : α, a ∈ current ∧ touched a = true)
    (hrest : (rest.filter fun run => run.all fun a => !touched a).Sublist rest') :
    ((if current.isEmpty then rest else current.reverse :: rest).filter
        fun run => run.all fun a => !touched a).Sublist
      (if other.isEmpty then rest' else other.reverse :: rest') := by
  have hskip : rest'.Sublist (if other.isEmpty then rest' else other.reverse :: rest') := by
    split
    · exact List.Sublist.refl _
    · exact List.sublist_cons_self _ _
  by_cases hempty : current.isEmpty = true
  · rw [if_pos hempty]
    exact hrest.trans hskip
  · rw [if_neg hempty, List.filter_cons]
    split
    · rename_i hall
      rcases hcurrent with heq | ⟨a, hmem, ha⟩
      · rw [← heq, if_neg hempty]
        exact hrest.cons_cons _
      · have hfalse := List.all_eq_true.mp hall a (List.mem_reverse.mpr hmem)
        rw [ha] at hfalse
        cases hfalse
    · exact hrest.trans hskip

/-- Runs without a touched element are runs of the division at touched elements too, in the same
order. -/
theorem runsAfter_sublist
    (separates touched : α -> Bool) (list : List α) {current other : List α}
    (hother : forall a : α, a ∈ other -> touched a = false)
    (hcurrent : current = other ∨ exists a : α, a ∈ current ∧ touched a = true) :
    ((runsAfter separates current list).filter fun run => run.all fun a => !touched a).Sublist
      (runsAfter (fun a => separates a || touched a) other list) := by
  have hnil : forall b : α, b ∈ ([] : List α) -> touched b = false :=
    fun b hmem => absurd hmem List.not_mem_nil
  -- The two runs in progress agree until a touched element; from then on the second starts anew.
  induction list generalizing current other with
  | nil =>
      rw [runsAfter, runsAfter]
      exact endRun_sublist hcurrent (List.Sublist.refl _)
  | cons a list ih =>
      rw [runsAfter, runsAfter]
      cases hseparates : separates a with
      | true =>
          rw [if_pos rfl, Bool.true_or, if_pos rfl]
          exact endRun_sublist hcurrent (ih hnil (Or.inl rfl))
      | false =>
          rw [if_neg Bool.false_ne_true, Bool.false_or]
          cases htouched : touched a with
          | false =>
              rw [if_neg Bool.false_ne_true]
              apply ih
              · intro b hmem
                rcases List.mem_cons.mp hmem with rfl | hrest
                · exact htouched
                · exact hother b hrest
              · rcases hcurrent with heq | ⟨b, hmem, hb⟩
                · left
                  rw [heq]
                · right
                  exact ⟨b, List.mem_cons_of_mem a hmem, hb⟩
          | true =>
              rw [if_pos rfl]
              have hrest := @ih (a :: current) [] hnil
                (Or.inr ⟨a, List.mem_cons_self, htouched⟩)
              split
              · exact hrest
              · exact hrest.trans (List.sublist_cons_self _ _)

theorem runs_sublist (separates touched : α -> Bool) (list : List α) :
    ((runs separates list).filter fun run => run.all fun a => !touched a).Sublist
      (runs (fun a => separates a || touched a) list) := by
  apply runsAfter_sublist separates touched list
  · intro a hmem
    cases hmem
  · exact Or.inl rfl

/-!
## Blanked places
-/

def blankPlaces (places : List Nat) (text : List Char) : List Char :=
  text.zipIdx.map fun placed => if placed.2 ∈ places then ' ' else placed.1

def untouchedWords (places : List Nat) (text : List Char) : List (List Char) :=
  ((runs (fun placed => isBlank placed.1) text.zipIdx).filter fun run =>
    run.all fun placed => !decide (placed.2 ∈ places)).map (List.map Prod.fst)

/-- Every untouched word is a word of what is left, in the same order. -/
theorem untouchedWords_sublist (places : List Nat) (text : List Char) :
    (untouchedWords places text).Sublist (words (blankPlaces places text)) := by
  have hblank : forall placed : Char × Nat,
      (isBlank placed.1 || decide (placed.2 ∈ places)) =
        isBlank (if placed.2 ∈ places then ' ' else placed.1) := by
    intro placed
    by_cases hmem : placed.2 ∈ places
    · simp [hmem, isBlank_space]
    · simp [hmem]
  have hwords := words_map hblank text.zipIdx
  have hsublist := runs_sublist (fun placed : Char × Nat => isBlank placed.1)
    (fun placed => decide (placed.2 ∈ places)) text.zipIdx
  rw [blankPlaces, hwords]
  have hforget : untouchedWords places text =
      ((runs (fun placed => isBlank placed.1) text.zipIdx).filter fun run =>
        run.all fun placed => !decide (placed.2 ∈ places)).map
          (List.map fun placed => if placed.2 ∈ places then ' ' else placed.1) := by
    apply List.map_congr_left
    intro run hrun
    apply List.map_congr_left
    intro placed hplaced
    have huntouched := List.all_eq_true.mp (List.mem_filter.mp hrun).2 placed hplaced
    rw [Bool.not_eq_true', decide_eq_false_iff_not] at huntouched
    rw [if_neg huntouched]
  rw [hforget]
  exact hsublist.map _

end Text

end CatalogSearch
