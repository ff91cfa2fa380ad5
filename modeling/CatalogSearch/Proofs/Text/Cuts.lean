import CatalogSearch.Proofs.Text.Occurrence
import CatalogSearch.Proofs.Text.Untouched
import Mathlib.Tactic.Tauto

/-!
# Cuts in a text

A cut blanks the first occurrence of a part.  To say where that is, a text under cuts is kept
as pieces: characters with their places, and blanks that stand for the places cut.
-/

namespace CatalogSearch

open Text

/-- A character that is kept, or a blank that stands for places that were cut. -/
inductive Piece
  | kept (c : Char) (place : Nat)
  | gap (places : List Nat)
  deriving DecidableEq, Repr

structure Span where
  start : Nat
  text : List Char
  deriving DecidableEq, Repr

namespace Piece

def char : Piece -> Char
  | kept c _ => c
  | gap _ => ' '

def places : Piece -> List Nat
  | kept _ place => [place]
  | gap places => places

def ofTextFrom (start : Nat) (text : List Char) : List Piece :=
  (text.zipIdx start).map fun placed => kept placed.1 placed.2

def ofText (text : List Char) : List Piece :=
  ofTextFrom 0 text

end Piece

namespace Pieces

def chars (pieces : List Piece) : List Char :=
  pieces.map Piece.char

def places (pieces : List Piece) : List Nat :=
  pieces.flatMap Piece.places

def keptPlaces (pieces : List Piece) : List Nat :=
  pieces.flatMap fun piece =>
    match piece with
    | .kept _ place => [place]
    | .gap _ => []

def cutPlaces (pieces : List Piece) : List Nat :=
  pieces.flatMap fun piece =>
    match piece with
    | .kept _ _ => []
    | .gap places => places

def occurrence (part : List Char) : List Piece -> List Piece
  | [] => []
  | piece :: rest =>
      if startsWith part (chars (piece :: rest)) then (piece :: rest).take part.length
      else occurrence part rest

def cutFirst (part : List Char) : List Piece -> List Piece
  | [] => if part.isEmpty then [.gap []] else []
  | piece :: rest =>
      if startsWith part (chars (piece :: rest)) then
        .gap (places ((piece :: rest).take part.length)) :: (piece :: rest).drop part.length
      else piece :: cutFirst part rest

def segment (span : Span) (pieces : List Piece) : List Piece :=
  (pieces.drop span.start).take span.text.length

def cutAll (pieces : List Piece) (spans : List Span) : List Piece :=
  spans.foldl (fun pieces span => cutFirst span.text pieces) pieces

/-!
## Laws of pieces
-/

@[simp] theorem chars_append (front back : List Piece) :
    chars (front ++ back) = chars front ++ chars back :=
  List.map_append

@[simp] theorem chars_cons (piece : Piece) (rest : List Piece) :
    chars (piece :: rest) = piece.char :: chars rest :=
  rfl

@[simp] theorem places_cons (piece : Piece) (rest : List Piece) :
    places (piece :: rest) = piece.places ++ places rest :=
  rfl

@[simp] theorem cutPlaces_gap (removed : List Nat) (rest : List Piece) :
    cutPlaces (.gap removed :: rest) = removed ++ cutPlaces rest :=
  rfl

@[simp] theorem length_chars (pieces : List Piece) :
    (chars pieces).length = pieces.length :=
  List.length_map _

@[simp] theorem places_append (front back : List Piece) :
    places (front ++ back) = places front ++ places back :=
  List.flatMap_append

@[simp] theorem keptPlaces_append (front back : List Piece) :
    keptPlaces (front ++ back) = keptPlaces front ++ keptPlaces back :=
  List.flatMap_append

@[simp] theorem cutPlaces_append (front back : List Piece) :
    cutPlaces (front ++ back) = cutPlaces front ++ cutPlaces back :=
  List.flatMap_append

theorem mem_places (pieces : List Piece) (place : Nat) :
    place ∈ places pieces <-> place ∈ keptPlaces pieces ∨ place ∈ cutPlaces pieces := by
  induction pieces with
  | nil => simp [places, keptPlaces, cutPlaces]
  | cons piece pieces ih =>
      simp only [places, keptPlaces, cutPlaces, List.flatMap_cons, List.mem_append] at ih ⊢
      rw [ih]
      cases piece with
      | kept c n =>
          simp only [Piece.places, List.not_mem_nil, false_or]
          tauto
      | gap ns =>
          simp only [Piece.places, List.not_mem_nil, false_or]
          tauto

theorem not_mem_cutPlaces
    {pieces : List Piece} {place : Nat} (hnodup : (places pieces).Nodup)
    (h : place ∈ keptPlaces pieces) :
    place ∉ cutPlaces pieces := by
  induction pieces with
  | nil => cases h
  | cons piece pieces ih =>
      rw [places_cons, List.nodup_append] at hnodup
      rcases hnodup with ⟨_, hrest, hapart⟩
      intro hcut
      cases piece with
      | kept c n =>
          rcases List.mem_cons.mp h with hfirst | hkept
          · exact hapart n (List.mem_singleton.mpr rfl) place
              ((mem_places pieces place).mpr (Or.inr hcut)) hfirst.symm
          · exact ih hrest hkept hcut
      | gap ns =>
          rcases List.mem_append.mp hcut with hfirst | hlater
          · exact hapart place hfirst place ((mem_places pieces place).mpr (Or.inl h)) rfl
          · exact ih hrest h hlater

theorem mem_keptPlaces
    {pieces : List Piece} {place : Nat} (h : place ∈ keptPlaces pieces) :
    exists c : Char, Piece.kept c place ∈ pieces := by
  rcases List.mem_flatMap.mp h with ⟨piece, hmem, hplace⟩
  cases piece with
  | kept c n =>
      rw [List.mem_singleton.mp hplace]
      exact ⟨c, hmem⟩
  | gap ns => cases hplace

theorem mem_keptPlaces_of_mem
    {pieces : List Piece} {c : Char} {place : Nat} (h : Piece.kept c place ∈ pieces) :
    place ∈ keptPlaces pieces :=
  List.mem_flatMap.mpr ⟨_, h, List.mem_singleton.mpr rfl⟩

@[simp] theorem chars_ofTextFrom (start : Nat) (text : List Char) :
    chars (Piece.ofTextFrom start text) = text := by
  induction text generalizing start with
  | nil => rfl
  | cons c text ih =>
      have hrest := ih (start + 1)
      simp only [chars, Piece.ofTextFrom, List.zipIdx_cons, List.map_cons] at hrest ⊢
      rw [hrest]
      rfl

@[simp] theorem chars_ofText (text : List Char) :
    chars (Piece.ofText text) = text :=
  chars_ofTextFrom 0 text

theorem cutPlaces_ofText (text : List Char) :
    cutPlaces (Piece.ofText text) = [] := by
  apply List.flatMap_eq_nil_iff.mpr
  intro piece hmem
  rcases List.mem_map.mp hmem with ⟨placed, _, heq⟩
  rw [← heq]

theorem gap_not_mem_ofText (removed : List Nat) {text : List Char} :
    Piece.gap removed ∉ Piece.ofText text := by
  intro hmem
  rcases List.mem_map.mp hmem with ⟨placed, _, heq⟩
  cases heq

theorem segment_split (span : Span) (pieces : List Piece) :
    pieces = pieces.take span.start ++ segment span pieces ++
      pieces.drop (span.start + span.text.length) := by
  unfold segment
  rw [List.append_assoc, ← List.drop_drop, List.take_append_drop, List.take_append_drop]

/-!
## The first occurrence
-/

/-- Where the first occurrence of a part lies, and what a cut does there. -/
structure FirstAt (part : List Char) (pieces front found back : List Piece) : Prop where
  split : pieces = front ++ found ++ back
  text : chars found = part
  first : forall before after : List Piece, forall other : List Piece,
    pieces = before ++ other ++ after -> chars other = part -> front.length ≤ before.length
  occurrence : occurrence part pieces = found
  cut : cutFirst part pieces = front ++ .gap (places found) :: back

structure Absent (part : List Char) (pieces : List Piece) : Prop where
  not_infix : ¬ part <:+: chars pieces
  occurrence : occurrence part pieces = []
  cut : cutFirst part pieces = pieces

section Cons

variable {part : List Char} {piece : Piece} {rest : List Piece}

theorem firstAt_start (h : startsWith part (chars (piece :: rest)) = true) :
    FirstAt part (piece :: rest) [] ((piece :: rest).take part.length)
      ((piece :: rest).drop part.length) := by
  constructor
  · rw [List.nil_append, List.take_append_drop]
  · rw [chars, List.map_take]
    exact (List.prefix_iff_eq_take.mp (startsWith_iff_isPrefix.mp h)).symm
  · intro before after other _ _
    exact Nat.zero_le _
  · rw [occurrence, if_pos h]
  · rw [cutFirst, if_pos h, List.nil_append]

theorem FirstAt.cons
    {front found back : List Piece} (hstarts : ¬ startsWith part (chars (piece :: rest)) = true)
    (h : FirstAt part rest front found back) :
    FirstAt part (piece :: rest) (piece :: front) found back := by
  constructor
  · rw [h.split, List.cons_append, List.cons_append]
  · exact h.text
  · intro before after other hsplit htext
    cases before with
    | nil =>
        exfalso
        apply hstarts
        rw [startsWith_iff_isPrefix, hsplit, List.nil_append, chars_append, htext]
        exact List.prefix_append _ _
    | cons first before =>
        rw [List.cons_append, List.cons_append] at hsplit
        injection hsplit with _ hrest
        exact Nat.succ_le_succ (h.first before after other hrest htext)
  · rw [Pieces.occurrence, if_neg hstarts, h.occurrence]
  · rw [cutFirst, if_neg hstarts, h.cut, List.cons_append]

theorem Absent.cons
    (hstarts : ¬ startsWith part (chars (piece :: rest)) = true) (h : Absent part rest) :
    Absent part (piece :: rest) := by
  constructor
  · intro hinfix
    rcases List.infix_cons_iff.mp hinfix with hprefix | hrest
    · exact hstarts (startsWith_iff_isPrefix.mpr hprefix)
    · exact h.not_infix hrest
  · rw [Pieces.occurrence, if_neg hstarts, h.occurrence]
  · rw [cutFirst, if_neg hstarts, h.cut]

end Cons

theorem cutFirst_cases
    {part : List Char} (hne : part ≠ []) (pieces : List Piece) :
    Absent part pieces ∨ exists front found back, FirstAt part pieces front found back := by
  induction pieces with
  | nil =>
      left
      constructor
      · intro hinfix
        exact hne (List.infix_nil.mp hinfix)
      · rfl
      · rw [cutFirst, if_neg (by simpa using hne)]
  | cons piece rest ih =>
      by_cases hstarts : startsWith part (chars (piece :: rest)) = true
      · exact Or.inr ⟨_, _, _, firstAt_start hstarts⟩
      · rcases ih with habsent | ⟨front, found, back, hfirst⟩
        · exact Or.inl (habsent.cons hstarts)
        · exact Or.inr ⟨piece :: front, found, back, hfirst.cons hstarts⟩

theorem chars_cutFirst (part : List Char) (pieces : List Piece) :
    chars (cutFirst part pieces) = blankFirst part (chars pieces) := by
  induction pieces with
  | nil =>
      cases part with
      | nil => rfl
      | cons c part => rfl
  | cons piece rest ih =>
      rw [cutFirst, chars_cons, blankFirst]
      unfold startsWith
      cases hlead : dropLead? part (piece.char :: chars rest) with
      | none =>
          have hnone : ¬ (none : Option (List Char)).isSome = true := by simp
          rw [if_neg hnone, ← ih]
          rfl
      | some tail =>
          rw [Option.isSome_some, if_pos rfl]
          have hsplit := dropLead?_eq_some.mp hlead
          have htail : chars ((piece :: rest).drop part.length) = tail := by
            rw [chars, List.map_drop]
            have hlist : (piece :: rest).map Piece.char = part ++ tail := hsplit
            rw [hlist, List.drop_left]
          rw [← htail]
          rfl

theorem mem_cutPlaces_cut
    {part : List Char} {pieces front found back : List Piece}
    (h : FirstAt part pieces front found back) (place : Nat) :
    place ∈ cutPlaces (cutFirst part pieces) <->
      place ∈ cutPlaces pieces ∨ place ∈ keptPlaces found := by
  rw [h.cut, cutPlaces_append, cutPlaces_gap, h.split, cutPlaces_append, cutPlaces_append]
  simp only [List.mem_append, mem_places]
  tauto

/-!
## Pieces of a text
-/

/-- Pieces that stand for a text from a place on, without an empty gap. -/
inductive Describes : Nat -> List Char -> List Piece -> Prop
  | nil (start : Nat) : Describes start [] []
  | kept {start : Nat} {text : List Char} {pieces : List Piece} (c : Char)
      (h : Describes (start + 1) text pieces) :
      Describes start (c :: text) (.kept c start :: pieces)
  | gap {start : Nat} {text : List Char} {pieces : List Piece} (removed : List Char)
      (hne : removed ≠ []) (h : Describes (start + removed.length) text pieces) :
      Describes start (removed ++ text) (.gap (List.range' start removed.length) :: pieces)

theorem describes_ofTextFrom (start : Nat) (text : List Char) :
    Describes start text (Piece.ofTextFrom start text) := by
  induction text generalizing start with
  | nil => exact Describes.nil start
  | cons c text ih => exact Describes.kept c (ih (start + 1))

theorem describes_ofText (text : List Char) :
    Describes 0 text (Piece.ofText text) :=
  describes_ofTextFrom 0 text

theorem Describes.places_eq
    {start : Nat} {text : List Char} {pieces : List Piece} (h : Describes start text pieces) :
    places pieces = List.range' start text.length := by
  induction h with
  | nil start => rfl
  | kept c h ih =>
      rw [places_cons, ih, List.length_cons, List.range'_succ]
      rfl
  | gap removed hne h ih =>
      rw [places_cons, ih, List.length_append, ← List.range'_append_1]
      rfl

theorem Describes.nodup
    {start : Nat} {text : List Char} {pieces : List Piece} (h : Describes start text pieces) :
    (places pieces).Nodup := by
  rw [h.places_eq]
  exact List.nodup_range'

theorem Describes.append
    {start : Nat} {front back : List Char} {pieces others : List Piece}
    (h : Describes start front pieces) (hother : Describes (start + front.length) back others) :
    Describes start (front ++ back) (pieces ++ others) := by
  induction h with
  | nil start => exact hother
  | @kept start text pieces c h ih =>
      rw [List.length_cons, Nat.add_comm text.length 1, ← Nat.add_assoc] at hother
      exact Describes.kept c (ih hother)
  | gap removed hne h ih =>
      rw [List.length_append, ← Nat.add_assoc] at hother
      rw [List.append_assoc]
      exact Describes.gap removed hne (ih hother)

theorem Describes.split
    {start : Nat} {text : List Char} {pieces others : List Piece}
    (h : Describes start text (pieces ++ others)) :
    exists front back, text = front ++ back ∧ Describes start front pieces ∧
      Describes (start + front.length) back others := by
  induction pieces generalizing start text with
  | nil => exact ⟨[], text, rfl, Describes.nil start, h⟩
  | cons piece pieces ih =>
      rw [List.cons_append] at h
      cases h with
      | @kept _ text _ c h =>
          rcases ih h with ⟨front, back, htext, hfront, hback⟩
          refine ⟨c :: front, back, by rw [htext, List.cons_append], Describes.kept c hfront, ?_⟩
          rw [List.length_cons, Nat.add_comm front.length 1, ← Nat.add_assoc]
          exact hback
      | gap removed hne h =>
          rcases ih h with ⟨front, back, htext, hfront, hback⟩
          refine ⟨removed ++ front, back, by rw [htext, List.append_assoc],
            Describes.gap removed hne hfront, ?_⟩
          rw [List.length_append, ← Nat.add_assoc]
          exact hback

theorem Describes.cutFirst
    {start : Nat} {text part : List Char} {pieces : List Piece} (h : Describes start text pieces)
    (hne : part ≠ []) :
    Describes start text (cutFirst part pieces) := by
  rcases cutFirst_cases hne pieces with habsent | ⟨front, found, back, hfirst⟩
  · rw [habsent.cut]
    exact h
  · rw [hfirst.split, List.append_assoc] at h
    rcases h.split with ⟨before, rest, htext, hbefore, hrest⟩
    rcases hrest.split with ⟨removed, after, hrestText, hremoved, hafter⟩
    have hremovedNe : removed ≠ [] := by
      intro hnil
      subst hnil
      cases hfound : found with
      | nil =>
          have hpart := hfirst.text
          rw [hfound] at hpart
          exact hne hpart.symm
      | cons piece found =>
          rw [hfound] at hremoved
          generalize hempty : ([] : List Char) = empty at hremoved
          cases hremoved with
          | kept c h => cases hempty
          | gap removed hgap h => exact hgap (List.append_eq_nil_iff.mp hempty.symm).1
    rw [hfirst.cut, htext, hrestText, hremoved.places_eq]
    exact hbefore.append (Describes.gap removed hremovedNe hafter)

/-!
## Words of what is left
-/

theorem words_replicate_blank (current : List Char) (count : Nat) (rest : List Char) :
    wordsAfter current (List.replicate (count + 1) ' ' ++ rest) =
      wordsAfter current (' ' :: rest) := by
  have hskip : forall n : Nat,
      wordsAfter [] (List.replicate n ' ' ++ rest) = wordsAfter [] rest := by
    intro n
    induction n with
    | zero => rfl
    | succ n ih =>
        rw [List.replicate_succ, List.cons_append, wordsAfter, if_pos isBlank_space]
        exact ih
  rw [List.replicate_succ, List.cons_append, wordsAfter, wordsAfter, if_pos isBlank_space,
    if_pos isBlank_space, hskip count]

/-- The words of pieces are those of the text with a blank at every place that was cut. -/
theorem Describes.wordsAfter_chars
    {start : Nat} {text : List Char} {pieces : List Piece} (h : Describes start text pieces)
    {cut : List Nat} (hkept : forall n : Nat, n ∈ keptPlaces pieces -> n ∉ cut)
    (hcut : forall n : Nat, n ∈ cutPlaces pieces -> n ∈ cut) (current : List Char) :
    wordsAfter current (chars pieces) =
      wordsAfter current ((text.zipIdx start).map fun placed =>
        if placed.2 ∈ cut then ' ' else placed.1) := by
  induction h generalizing current with
  | nil start => rfl
  | @kept start text pieces c h ih =>
      have hstart : start ∉ cut := hkept start (List.mem_cons_self)
      have hrest := ih (fun n hmem => hkept n (List.mem_cons_of_mem start hmem)) hcut
      have hchars : chars (.kept c start :: pieces) = c :: chars pieces := rfl
      rw [hchars, List.zipIdx_cons, List.map_cons]
      simp only [if_neg hstart]
      rw [wordsAfter, wordsAfter, hrest, hrest]
  | @gap start text pieces removed hne h ih =>
      have hrest := ih hkept (fun n hmem => hcut n (List.mem_append_right _ hmem))
      have hchars : chars (.gap (List.range' start removed.length) :: pieces) =
          ' ' :: chars pieces := rfl
      have hblanks : (removed.zipIdx start).map (fun placed =>
          if placed.2 ∈ cut then ' ' else placed.1) = List.replicate removed.length ' ' := by
        apply List.eq_replicate_iff.mpr
        constructor
        · rw [List.length_map, List.length_zipIdx]
        · intro c hmem
          rcases List.mem_map.mp hmem with ⟨placed, hplaced, heq⟩
          have hbounds := List.mem_zipIdx hplaced
          have hin : placed.2 ∈ cut := by
            apply hcut
            apply List.mem_append_left
            rw [List.mem_range'_1]
            omega
          rw [← heq, if_pos hin]
      rw [hchars, List.zipIdx_append, List.map_append, hblanks]
      cases hlength : removed.length with
      | zero => exact absurd (List.length_eq_zero_iff.mp hlength) hne
      | succ count =>
          rw [hlength] at hrest
          rw [words_replicate_blank, wordsAfter, wordsAfter, if_pos isBlank_space,
            if_pos isBlank_space, hrest]

theorem Describes.words_chars
    {text : List Char} {pieces : List Piece} (h : Describes 0 text pieces) {cut : List Nat}
    (hcut : forall n : Nat, n ∈ cutPlaces pieces <-> n ∈ cut) :
    words (chars pieces) = words (blankPlaces cut text) := by
  apply h.wordsAfter_chars
  · intro n hmem hin
    exact not_mem_cutPlaces h.nodup hmem ((hcut n).mpr hin)
  · intro n hmem
    exact (hcut n).mp hmem

end Pieces

end CatalogSearch
