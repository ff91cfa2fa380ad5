import CatalogSearch.Proofs.Text.LowerWords
import CatalogSearch.Text.CaseFold

/-!
# Case folding keeps white space

Folding turns no blank into a letter and no letter into a blank.  So a folded
text starts and ends with white space exactly where the text does, and a text
that differs from a trimmed one in letter case alone is trimmed itself.
-/

namespace CatalogSearch

namespace Text

/-!
## Single characters
-/

def CaseRun.apartFromBlanks (run : CaseRun) : Bool :=
  run.imageValid && run.withoutBlanks && blankRanges.all fun range => !run.imageWithin range

def expandsSolid (entry : Nat × List Nat) : Bool :=
  !entry.2.isEmpty && (entry.1 :: entry.2).all fun code => !isBlank (Char.ofNat code)

theorem foldTables_apartFromBlanks :
    (foldRuns.all CaseRun.apartFromBlanks && foldExpansions.all expandsSolid) = true := by
  decide

theorem mem_foldRuns_apart
    {run : CaseRun} (h : run ∈ foldRuns) :
    run.imageValid = true ∧ run.withoutBlanks = true ∧
      forall range : CodeRange, range ∈ blankRanges -> run.imageWithin range = false := by
  have hrun := List.all_eq_true.mp (Bool.and_eq_true_iff.mp foldTables_apartFromBlanks).1 run h
  simp only [CaseRun.apartFromBlanks, Bool.and_eq_true, List.all_eq_true, Bool.not_eq_true'] at hrun
  exact ⟨hrun.1.1, hrun.1.2, hrun.2⟩

theorem lookup_foldExpansions
    {code : Nat} {codes : List Nat} (h : foldExpansions.lookup code = some codes) :
    codes ≠ [] ∧ isBlank (Char.ofNat code) = false ∧
      forall image : Nat, image ∈ codes -> isBlank (Char.ofNat image) = false := by
  rcases List.lookup_eq_some_iff.mp h with ⟨front, back, hsplit, _⟩
  have hmem : (code, codes) ∈ foldExpansions := by
    rw [hsplit]
    exact List.mem_append_right _ List.mem_cons_self
  have hentry :=
    List.all_eq_true.mp (Bool.and_eq_true_iff.mp foldTables_apartFromBlanks).2 _ hmem
  simp only [expandsSolid, Bool.and_eq_true, List.all_eq_true, Bool.not_eq_true',
    List.isEmpty_eq_false_iff, List.forall_mem_cons] at hentry
  exact hentry

theorem foldChar_of_isBlank
    {c : Char} (h : isBlank c = true) :
    foldChar c = [c] := by
  unfold foldChar
  split
  · rename_i hascii
    have hlower := (isLower_of_isBlank h).1
    rw [lowerChar, if_pos hascii] at hlower
    exact hlower
  · rename_i hlarge
    cases hlookup : foldExpansions.lookup c.toNat with
    | some codes =>
        have hsolid := (lookup_foldExpansions hlookup).2.1
        rw [Char.ofNat_toNat, h] at hsolid
        cases hsolid
    | none =>
        simp only
        rw [CaseRun.apply_eq_self fun run hmem =>
          CaseRun.covers_blank (mem_foldRuns_apart hmem).2.1 h (by omega)]

theorem foldChar_blank (c : Char) :
    foldChar c ≠ [] ∧ forall d : Char, d ∈ foldChar c -> isBlank d = isBlank c := by
  cases hblank : isBlank c with
  | true =>
      rw [foldChar_of_isBlank hblank]
      exact ⟨List.cons_ne_nil c [], List.forall_mem_singleton.mpr hblank⟩
  | false =>
      unfold foldChar
      split
      · rename_i hascii
        refine ⟨List.cons_ne_nil _ _, List.forall_mem_singleton.mpr ?_⟩
        rw [(toLower_ascii hascii).2.2, hblank]
      · split
        · rename_i codes hlookup
          rcases lookup_foldExpansions hlookup with ⟨hne, _, hsolid⟩
          refine ⟨fun hnil => hne (List.map_eq_nil_iff.mp hnil), fun d hmem => ?_⟩
          rcases List.mem_map.mp hmem with ⟨image, himage, rfl⟩
          exact hsolid image himage
        · refine ⟨List.cons_ne_nil _ _, List.forall_mem_singleton.mpr ?_⟩
          unfold CaseRun.apply
          cases hfind : foldRuns.find? (fun run => run.covers c.toNat) with
          | none => exact hblank
          | some run =>
              have hcovers : run.covers c.toNat = true := by simpa using List.find?_some hfind
              rcases mem_foldRuns_apart (List.mem_of_find?_eq_some hfind) with
                ⟨hvalid, _, himages⟩
              exact CaseRun.isBlank_image hcovers hvalid himages

/-!
## Texts
-/

theorem head?_foldCase (text : List Char) :
    (foldCase text).head?.map isBlank = text.head?.map isBlank := by
  cases text with
  | nil => rfl
  | cons c rest =>
      rcases foldChar_blank c with ⟨hne, hblank⟩
      have hsplit : foldCase (c :: rest) = foldChar c ++ foldCase rest := List.flatMap_cons
      rcases List.exists_cons_of_ne_nil hne with ⟨d, others, hcons⟩
      rw [hsplit, hcons, List.cons_append, List.head?_cons, List.head?_cons, Option.map_some,
        Option.map_some, hblank d (hcons ▸ List.mem_cons_self)]

theorem getLast?_foldCase (text : List Char) :
    (foldCase text).getLast?.map isBlank = text.getLast?.map isBlank := by
  rcases List.eq_nil_or_concat text with rfl | ⟨front, c, rfl⟩
  · rfl
  · rcases foldChar_blank c with ⟨hne, hblank⟩
    have hsplit : foldCase (front ++ [c]) = foldCase front ++ foldChar c := by
      rw [foldCase_append]
      exact congrArg _ (List.flatMap_singleton foldChar c)
    rw [List.concat_eq_append, hsplit, List.getLast?_append_of_ne_nil _ hne, List.getLast?_concat,
      List.getLast?_eq_some_getLast hne, Option.map_some, Option.map_some,
      hblank _ (List.getLast_mem hne)]

theorem solidEnds_iff_map (text : List Char) :
    SolidEnds text <->
      text.head?.map isBlank ≠ some true ∧ text.getLast?.map isBlank ≠ some true := by
  simp only [ne_eq, Option.map_eq_some_iff, not_exists, not_and, Bool.not_eq_true]
  exact ⟨fun h => ⟨h.head, h.last⟩, fun h => ⟨h.1, h.2⟩⟩

theorem solidEnds_foldCase_iff (text : List Char) :
    SolidEnds (foldCase text) <-> SolidEnds text := by
  rw [solidEnds_iff_map, solidEnds_iff_map, head?_foldCase, getLast?_foldCase]

theorem foldCase_eq_nil_iff {text : List Char} :
    foldCase text = [] <-> text = [] := by
  constructor
  · intro h
    have hhead := head?_foldCase text
    rw [h] at hhead
    exact List.head?_eq_none_iff.mp (Option.map_eq_none_iff.mp hhead.symm)
  · rintro rfl
    rfl

/-!
## Names
-/

def SameName (name other : List Char) : Prop :=
  foldCase (strip name) = foldCase (strip other)

theorem solidEnds_strip (text : List Char) : SolidEnds (strip text) :=
  (solidEnds_iff _).mpr (strip_strip text)

/-- A name that is folded like a trimmed one is trimmed. -/
theorem sameName_of_foldCase
    {name other : List Char} (h : foldCase other = foldCase (strip name)) :
    SameName name other := by
  have hother : SolidEnds other := by
    rw [← solidEnds_foldCase_iff, h, solidEnds_foldCase_iff]
    exact solidEnds_strip name
  rw [SameName, (solidEnds_iff other).mp hother, h]

end Text

end CatalogSearch
