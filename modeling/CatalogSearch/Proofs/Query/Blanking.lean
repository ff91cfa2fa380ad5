import CatalogSearch.Proofs.Query.Lasting

/-!
# Blanked texts

A pass over a text replaces every part that a pattern covers by a gap.  What is then left
between two characters that are no gaps stood there before, and the pattern does not fit it.
-/

namespace CatalogSearch

open Text

/-- A character of a text, and whether it is a gap: a space in place of a blanked part. -/
structure Cell where
  char : Char
  isGap : Bool
  deriving DecidableEq, Repr

namespace Pattern

variable {α : Type}

def CoversSome (pattern : Pattern α) (prev : Option Char) (text : List Char) : Prop :=
  exists hit : Hit α, pattern prev text = some hit ∧ hit.text ≠ []

theorem blankFrom_hit
    {pattern : Pattern α} {prev : Option Char} {c : Char} {rest : List Char} {hit : Hit α}
    (h : pattern prev (c :: rest) = some hit) (hne : hit.text ≠ []) :
    pattern.blankFrom prev 0 (c :: rest) =
      ' ' :: pattern.blankFrom (some c) (hit.text.length - 1) rest := by
  rcases hit with ⟨value, text, after⟩
  cases text with
  | nil => exact absurd rfl hne
  | cons d text =>
      rw [blankFrom, h]
      rfl

theorem blankFrom_kept
    {pattern : Pattern α} {prev : Option Char} {c : Char} {rest : List Char}
    (h : ¬ pattern.CoversSome prev (c :: rest)) :
    pattern.blankFrom prev 0 (c :: rest) = c :: pattern.blankFrom (some c) 0 rest := by
  rw [blankFrom]
  split
  · rename_i hhit
    exact absurd ⟨_, hhit, List.cons_ne_nil _ _⟩ h
  · rfl

end Pattern

namespace Cells

variable {α : Type}

def chars (cells : List Cell) : List Char :=
  cells.map Cell.char

def ofText (text : List Char) : List Cell :=
  text.map fun c => ⟨c, false⟩

/-- Cells with every part that a pattern covers replaced by a gap, after `covered` more cells of a
part that was replaced already. -/
def blankFrom (pattern : Pattern α) (prev : Option Char) (covered : Nat) : List Cell -> List Cell
  | [] => []
  | cell :: rest =>
      match covered with
      | left + 1 => blankFrom pattern (some cell.char) left rest
      | 0 =>
          match pattern prev (cell.char :: chars rest) with
          | some ⟨_, _ :: text, _⟩ =>
              ⟨' ', true⟩ :: blankFrom pattern (some cell.char) text.length rest
          | _ => cell :: blankFrom pattern (some cell.char) 0 rest

def blankAll (pattern : Pattern α) (cells : List Cell) : List Cell :=
  blankFrom pattern none 0 cells

def blankEach (patterns : List (Pattern α)) (cells : List Cell) : List Cell :=
  patterns.foldl (fun cells pattern => blankAll pattern cells) cells

@[simp] theorem chars_append (front back : List Cell) :
    chars (front ++ back) = chars front ++ chars back :=
  List.map_append

@[simp] theorem chars_cons (cell : Cell) (rest : List Cell) :
    chars (cell :: rest) = cell.char :: chars rest :=
  rfl

theorem chars_ofText (text : List Char) :
    chars (ofText text) = text := by
  unfold chars ofText
  rw [List.map_map]
  exact List.map_id text

theorem blankFrom_hit
    {pattern : Pattern α} {prev : Option Char} {cell : Cell} {rest : List Cell} {hit : Hit α}
    (h : pattern prev (cell.char :: chars rest) = some hit) (hne : hit.text ≠ []) :
    blankFrom pattern prev 0 (cell :: rest) =
      ⟨' ', true⟩ :: blankFrom pattern (some cell.char) (hit.text.length - 1) rest := by
  rcases hit with ⟨value, text, after⟩
  cases text with
  | nil => exact absurd rfl hne
  | cons d text =>
      rw [blankFrom, h]
      rfl

theorem blankFrom_kept
    {pattern : Pattern α} {prev : Option Char} {cell : Cell} {rest : List Cell}
    (h : ¬ pattern.CoversSome prev (cell.char :: chars rest)) :
    blankFrom pattern prev 0 (cell :: rest) =
      cell :: blankFrom pattern (some cell.char) 0 rest := by
  rw [blankFrom]
  split
  · rename_i hhit
    exact absurd ⟨_, hhit, List.cons_ne_nil _ _⟩ h
  · rfl

theorem chars_blankFrom
    (pattern : Pattern α) (prev : Option Char) (covered : Nat) (cells : List Cell) :
    chars (blankFrom pattern prev covered cells) =
      pattern.blankFrom prev covered (chars cells) := by
  induction cells generalizing prev covered with
  | nil => rfl
  | cons cell rest ih =>
      cases covered with
      | succ left => exact ih (some cell.char) left
      | zero =>
          rw [chars_cons]
          by_cases hcovers : pattern.CoversSome prev (cell.char :: chars rest)
          · rcases hcovers with ⟨hit, hhit, hne⟩
            rw [blankFrom_hit hhit hne, Pattern.blankFrom_hit hhit hne, chars_cons, ih]
          · rw [blankFrom_kept hcovers, Pattern.blankFrom_kept hcovers, chars_cons, ih]

theorem chars_blankEach (patterns : List (Pattern α)) (cells : List Cell) :
    chars (blankEach patterns cells) =
      patterns.foldl (fun text pattern => pattern.blankAll text) (chars cells) := by
  induction patterns generalizing cells with
  | nil => rfl
  | cons pattern patterns ih =>
      have hfirst : chars (blankAll pattern cells) = pattern.blankAll (chars cells) :=
        chars_blankFrom pattern none 0 cells
      rw [List.foldl_cons, ← hfirst, ← ih]
      rfl

/-!
## Parts away from gaps
-/

structure Whole (left : Option Cell) (part : List Cell) (right : Option Cell) : Prop where
  left : forall cell : Cell, left = some cell -> cell.isGap = false
  part : forall cell : Cell, cell ∈ part -> cell.isGap = false
  right : forall cell : Cell, right = some cell -> cell.isGap = false

theorem prefix_of_blankFrom
    {pattern : Pattern α} {prev : Option Char} {cells part back : List Cell}
    (h : blankFrom pattern prev 0 cells = part ++ back)
    (hpart : forall cell : Cell, cell ∈ part -> cell.isGap = false)
    (hback : forall cell : Cell, back.head? = some cell -> cell.isGap = false) :
    exists back' : List Cell, cells = part ++ back' ∧ back'.head? = back.head? := by
  induction cells generalizing prev part with
  | nil =>
      rcases List.append_eq_nil_iff.mp h.symm with ⟨hnil, hnil'⟩
      exact ⟨[], by rw [hnil]; rfl, by rw [hnil']⟩
  | cons cell rest ih =>
      by_cases hcovers : pattern.CoversSome prev (cell.char :: chars rest)
      · rcases hcovers with ⟨hit, hhit, hne⟩
        rw [blankFrom_hit hhit hne] at h
        have hhead : (part ++ back).head? = some ⟨' ', true⟩ := by rw [← h]; rfl
        rw [List.head?_append] at hhead
        cases part with
        | nil => cases hback _ hhead
        | cons first part => cases hpart _ (List.mem_cons.mpr (Or.inl (Option.some.inj hhead).symm))
      · rw [blankFrom_kept hcovers] at h
        cases part with
        | nil => exact ⟨cell :: rest, rfl, by rw [List.nil_append] at h; rw [← h]; rfl⟩
        | cons first part =>
            injection h with hfirst hrest
            rcases ih hrest (fun other hmem => hpart other (List.mem_cons_of_mem first hmem)) with
              ⟨back', hsplit, hhead⟩
            rw [hfirst, hsplit]
            exact ⟨back', rfl, hhead⟩

structure StandsUnfit (pattern : Pattern α) (prev left : Option Cell) (part : List Cell)
    (right : Option Cell) (cells : List Cell) : Prop where
  exists_sides : exists front back : List Cell, cells = front ++ part ++ back ∧
    front.getLast?.or prev = left ∧ back.head? = right ∧
    ¬ pattern.CoversSome (left.map Cell.char) (chars (part ++ back))

theorem StandsUnfit.cons
    {pattern : Pattern α} {prev left : Option Cell} {part : List Cell} {right : Option Cell}
    {cell : Cell} {cells : List Cell}
    (h : StandsUnfit pattern (some cell) left part right cells) :
    StandsUnfit pattern prev left part right (cell :: cells) := by
  rcases h.exists_sides with ⟨front, back, hsplit, hleft, hright, hunfit⟩
  refine ⟨⟨cell :: front, back, by rw [hsplit]; rfl, ?_, hright, hunfit⟩⟩
  rw [Pattern.getLast?_cons_or, hleft]

theorem standsUnfit_of_kept
    {pattern : Pattern α} {prev : Option Cell} {cell first : Cell} {rest part back : List Cell}
    (hunfit : ¬ pattern.CoversSome (prev.map Cell.char) (cell.char :: chars rest))
    (h : cell :: blankFrom pattern (some cell.char) 0 rest = first :: (part ++ back))
    (hwhole : Whole prev (first :: part) back.head?) :
    StandsUnfit pattern prev prev (first :: part) back.head? (cell :: rest) := by
  injection h with hfirst hrest
  rcases prefix_of_blankFrom hrest
    (fun other hmem => hwhole.part other (List.mem_cons_of_mem first hmem))
    hwhole.right with ⟨back', hsplit, hhead⟩
  rw [hfirst, hsplit] at hunfit ⊢
  exact ⟨⟨[], back', rfl, rfl, hhead, hunfit⟩⟩

/-- The pattern of a pass does not fit a part that the pass left whole, where it stood before.  The
cell kept before the place is the one that stood there, or else a gap. -/
theorem standsUnfit_of_blankFrom
    {pattern : Pattern α} {prev kept : Option Cell} {covered : Nat}
    {cells front part back : List Cell}
    (hkept : (forall cell : Cell, kept = some cell -> cell.isGap = false) ->
      covered = 0 ∧ kept = prev)
    (h : blankFrom pattern (prev.map Cell.char) covered cells = front ++ part ++ back)
    (hne : part ≠ []) (hwhole : Whole (front.getLast?.or kept) part back.head?) :
    StandsUnfit pattern prev (front.getLast?.or kept) part back.head? cells := by
  induction cells generalizing prev kept covered front with
  | nil =>
      rw [blankFrom] at h
      have hnil := (List.append_eq_nil_iff.mp (List.append_eq_nil_iff.mp h.symm).1).2
      exact absurd hnil hne
  | cons cell rest ih =>
      cases covered with
      | succ left =>
          apply StandsUnfit.cons
          refine ih ?_ h hwhole
          intro hsolid
          exact absurd (hkept hsolid).1 (Nat.succ_ne_zero left)
      | zero =>
          by_cases hcovers : pattern.CoversSome (prev.map Cell.char) (cell.char :: chars rest)
          · rcases hcovers with ⟨hit, hhit, hhitNe⟩
            rw [blankFrom_hit hhit hhitNe] at h
            cases front with
            | nil =>
                cases part with
                | nil => exact absurd rfl hne
                | cons first part =>
                    injection h with hfirst _
                    have hgap := hwhole.part first List.mem_cons_self
                    rw [← hfirst] at hgap
                    cases hgap
            | cons first front =>
                injection h with hfirst hrest
                rw [Pattern.getLast?_cons_or] at hwhole ⊢
                apply StandsUnfit.cons
                refine ih ?_ hrest hwhole
                intro hsolid
                have hgap := hsolid first rfl
                rw [← hfirst] at hgap
                cases hgap
          · have hkeeps := @blankFrom_kept α pattern (prev.map Cell.char) cell rest hcovers
            rw [hkeeps] at h
            cases front with
            | nil =>
                cases part with
                | nil => exact absurd rfl hne
                | cons first part =>
                    rcases hkept hwhole.left with ⟨_, rfl⟩
                    exact standsUnfit_of_kept hcovers h hwhole
            | cons first front =>
                injection h with hfirst hrest
                rw [Pattern.getLast?_cons_or] at hwhole ⊢
                apply StandsUnfit.cons
                rw [hfirst] at hrest ⊢
                exact ih (fun _ => ⟨rfl, rfl⟩) hrest hwhole

/-!
## Several passes
-/

theorem standsUnfit_of_blankAll
    {pattern : Pattern α} {cells front part back : List Cell}
    (h : blankAll pattern cells = front ++ part ++ back) (hne : part ≠ [])
    (hwhole : Whole front.getLast? part back.head?) :
    StandsUnfit pattern none front.getLast? part back.head? cells := by
  have hunfit := @standsUnfit_of_blankFrom α pattern none none 0 cells front part back
    (fun _ => ⟨rfl, rfl⟩) h hne
  rw [Option.or_none] at hunfit
  exact hunfit hwhole

theorem stands_of_blankEach
    {patterns : List (Pattern α)} {cells front part back : List Cell}
    (h : blankEach patterns cells = front ++ part ++ back) (hne : part ≠ [])
    (hwhole : Whole front.getLast? part back.head?) :
    exists front' back' : List Cell, cells = front' ++ part ++ back' ∧
      front'.getLast? = front.getLast? ∧ back'.head? = back.head? := by
  induction patterns generalizing cells with
  | nil => exact ⟨front, back, h, rfl, rfl⟩
  | cons pattern patterns ih =>
      rcases @ih (blankAll pattern cells) h with ⟨middle, tail, hsplit, hleft, hright⟩
      rw [← hleft, ← hright] at hwhole ⊢
      rcases (standsUnfit_of_blankAll hsplit hne hwhole).exists_sides with
        ⟨front', back', hcells, hleft', hright', _⟩
      rw [Option.or_none] at hleft'
      exact ⟨front', back', hcells, hleft', hright'⟩

/-- No pattern that was passed over the cells covers a part that all passes left whole. -/
theorem not_covers_whole
    {patterns : List (Pattern α)}
    (hcovers : forall pattern : Pattern α, pattern ∈ patterns ->
      Pattern.Covers (fun _ => True) pattern)
    (hlasts : forall pattern : Pattern α, pattern ∈ patterns -> pattern.Lasts)
    (hshows : forall pattern : Pattern α, pattern ∈ patterns ->
      Pattern.Shows (fun _ => True) pattern)
    {pattern : Pattern α} (hmem : pattern ∈ patterns) {cells front part back : List Cell}
    (h : blankEach patterns cells = front ++ part ++ back) (hne : part ≠ [])
    (hwhole : Whole front.getLast? part back.head?) {hit : Hit α}
    (hhit : pattern (front.getLast?.map Cell.char) (chars (part ++ back)) = some hit) :
    hit.text ≠ chars part := by
  induction patterns generalizing cells with
  | nil => cases hmem
  | cons first patterns ih =>
      rcases List.mem_cons.mp hmem with rfl | hrest
      · intro htext
        rcases @stands_of_blankEach α patterns (blankAll pattern cells) _ _ _ h hne hwhole with
          ⟨middle, tail, hsplit, hleft, hright⟩
        rw [← hleft, ← hright] at hwhole
        rcases (standsUnfit_of_blankAll hsplit hne hwhole).exists_sides with
          ⟨front', back', _, hleft', hright', hunfit⟩
        rw [hleft] at hunfit
        rw [hright] at hright'
        have hsplit := (hcovers pattern hmem).split hhit
        rw [chars_append, htext] at hsplit
        have hrest := List.append_cancel_left hsplit
        have hhead : (chars back').head? = hit.rest.head? := by
          rw [← hrest, chars, chars, List.head?_map, List.head?_map, hright']
        rcases Option.isSome_iff_exists.mp (hlasts pattern hmem _ _ hit _ hhit hhead) with
          ⟨again, hagain⟩
        rw [htext, ← chars_append] at hagain
        rcases hshows pattern hmem _ _ again hagain with ⟨c, hc, _⟩
        exact hunfit ⟨again, hagain, List.ne_nil_of_mem hc⟩
      · exact ih (fun other h => hcovers other (List.mem_cons_of_mem first h))
          (fun other h => hlasts other (List.mem_cons_of_mem first h))
          (fun other h => hshows other (List.mem_cons_of_mem first h)) hrest h

end Cells

/-!
## Texts that a pass leaves as they are
-/

namespace Pattern

variable {α : Type}

structure Shortens (pattern : Pattern α) : Prop where
  long : forall (prev : Option Char) (text : List Char) (hit : Hit α),
    pattern prev text = some hit -> 2 ≤ hit.text.length
  covers : Covers (fun _ => True) pattern

theorem Shortens.text_ne_nil
    {pattern : Pattern α} (h : pattern.Shortens) {prev : Option Char} {text : List Char}
    {hit : Hit α} (hhit : pattern prev text = some hit) :
    hit.text ≠ [] :=
  List.ne_nil_of_length_pos (Nat.lt_of_lt_of_le Nat.zero_lt_two (h.long _ _ _ hhit))

theorem Shortens.shows
    {pattern : Pattern α} (h : pattern.Shortens) :
    Shows (fun _ => True) pattern := by
  intro prev text hit hhit
  rcases List.exists_mem_of_ne_nil hit.text (h.text_ne_nil hhit) with ⟨c, hc⟩
  exact ⟨c, hc, trivial⟩

theorem blankFrom_eq_self
    {pattern : Pattern α} {prev : Option Char} {text : List Char}
    (h : searchFrom pattern prev text = none) :
    pattern.blankFrom prev 0 text = text := by
  induction text generalizing prev with
  | nil => rfl
  | cons c rest ih =>
      rw [searchFrom] at h
      cases hhit : pattern prev (c :: rest) with
      | some hit =>
          rw [hhit] at h
          cases h
      | none =>
          rw [hhit, Option.map_eq_none_iff] at h
          rw [blankFrom_kept, ih h]
          rintro ⟨hit, hsome, _⟩
          rw [hhit] at hsome
          cases hsome

theorem length_blankFrom_le
    (pattern : Pattern α) (prev : Option Char) (covered : Nat) (text : List Char) :
    (pattern.blankFrom prev covered text).length ≤ text.length - covered := by
  induction text generalizing prev covered with
  | nil => exact Nat.zero_le _
  | cons c rest ih =>
      cases covered with
      | succ left =>
          rw [List.length_cons, Nat.add_sub_add_right]
          exact ih (some c) left
      | zero =>
          by_cases hcovers : pattern.CoversSome prev (c :: rest)
          · rcases hcovers with ⟨hit, hhit, hne⟩
            have hrest := ih (some c) (hit.text.length - 1)
            rw [blankFrom_hit hhit hne, List.length_cons, List.length_cons]
            omega
          · have hrest := ih (some c) 0
            rw [blankFrom_kept hcovers, List.length_cons, List.length_cons]
            omega

theorem Shortens.length_blankFrom_lt
    {pattern : Pattern α} (h : pattern.Shortens) {prev : Option Char} {text : List Char}
    (hfound : (searchFrom pattern prev text).isSome) :
    (pattern.blankFrom prev 0 text).length < text.length := by
  induction text generalizing prev with
  | nil =>
      rw [searchFrom, Option.isSome_map] at hfound
      rcases Option.isSome_iff_exists.mp hfound with ⟨hit, hhit⟩
      exact absurd (List.append_eq_nil_iff.mp (h.covers.split hhit).symm).1 (h.text_ne_nil hhit)
  | cons c rest ih =>
      cases hhit : pattern prev (c :: rest) with
      | some hit =>
          have hlong := h.long _ _ hit hhit
          have hlength := congrArg List.length (h.covers.split hhit)
          have hrest := length_blankFrom_le pattern (some c) (hit.text.length - 1) rest
          rw [List.length_append] at hlength
          rw [blankFrom_hit hhit (h.text_ne_nil hhit)]
          simp only [List.length_cons] at hlength ⊢
          omega
      | none =>
          rw [searchFrom, hhit, Option.isSome_map] at hfound
          have hkept : ¬ pattern.CoversSome prev (c :: rest) := by
            rintro ⟨hit, hsome, _⟩
            rw [hhit] at hsome
            cases hsome
          rw [blankFrom_kept hkept, List.length_cons, List.length_cons]
          exact Nat.succ_lt_succ (ih hfound)

theorem length_foldl_blankAll_le (patterns : List (Pattern α)) (text : List Char) :
    (patterns.foldl (fun text pattern => pattern.blankAll text) text).length ≤ text.length := by
  induction patterns generalizing text with
  | nil => exact Nat.le_refl _
  | cons pattern patterns ih =>
      rw [List.foldl_cons]
      exact Nat.le_trans (ih _) (length_blankFrom_le pattern none 0 text)

theorem foldl_blankAll_eq_self
    {patterns : List (Pattern α)} {text : List Char}
    (h : forall pattern : Pattern α, pattern ∈ patterns -> pattern.search text = none) :
    patterns.foldl (fun text pattern => pattern.blankAll text) text = text := by
  induction patterns with
  | nil => rfl
  | cons pattern patterns ih =>
      have hfirst : pattern.blankAll text = text :=
        blankFrom_eq_self (h pattern List.mem_cons_self)
      rw [List.foldl_cons, hfirst]
      exact ih fun other hmem => h other (List.mem_cons_of_mem pattern hmem)

/-- The first pattern found makes the text shorter, and no pass makes it longer again. -/
theorem length_foldl_blankAll_lt
    {patterns : List (Pattern α)}
    (h : forall pattern : Pattern α, pattern ∈ patterns -> pattern.Shortens)
    {pattern : Pattern α} (hmem : pattern ∈ patterns) {text : List Char}
    (hfound : (pattern.search text).isSome) :
    (patterns.foldl (fun text pattern => pattern.blankAll text) text).length < text.length := by
  induction patterns with
  | nil => cases hmem
  | cons first patterns ih =>
      rw [List.foldl_cons]
      by_cases hfirst : (first.search text).isSome
      · exact Nat.lt_of_le_of_lt (length_foldl_blankAll_le patterns _)
          ((h first List.mem_cons_self).length_blankFrom_lt hfirst)
      · have hsame : first.blankAll text = text :=
          blankFrom_eq_self (Option.not_isSome_iff_eq_none.mp hfirst)
        rw [hsame]
        rcases List.mem_cons.mp hmem with rfl | hrest
        · exact absurd hfound hfirst
        · exact ih (fun other hmem => h other (List.mem_cons_of_mem first hmem)) hrest

end Pattern

end CatalogSearch
