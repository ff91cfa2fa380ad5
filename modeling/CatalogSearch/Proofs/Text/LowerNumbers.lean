import CatalogSearch.Proofs.Text.Digits

/-!
# Numbers in lower case

Lower case leaves the characters of a number as they are and makes none, and a word character
stays one.  The only exception is the dotted capital I, which leaves a mark behind its letter
that is no word character.
-/

namespace CatalogSearch

namespace Text

def isNumberChar (c : Char) : Bool :=
  isDigit c || c == '.'

def dottedI : Char :=
  Char.ofNat 0x130

def numberRanges : List CodeRange :=
  (0x2E, 0x2E) :: (0x30, 0x39) :: digitZeros.map fun first => (first, first + 9)

theorem isNumberChar_within
    {c : Char} (h : isNumberChar c = true) :
    exists range : CodeRange, range ∈ numberRanges ∧ range.1 ≤ c.toNat ∧ c.toNat ≤ range.2 := by
  rcases (Bool.or_eq_true _ _).mp h with hdigit | hpoint
  · rcases isDigit_cases hdigit with ⟨hascii, hdigit⟩ | ⟨_, first, hmem, hfirst, hlast⟩
    · have hc : c.isDigit = true -> 0x30 ≤ c.toNat ∧ c.toNat ≤ 0x39 :=
        forall_ascii hascii (by decide)
      exact ⟨(0x30, 0x39), List.mem_cons_of_mem _ List.mem_cons_self, hc hdigit⟩
    · refine ⟨(first, first + 9), ?_, hfirst, Nat.le_of_lt_succ hlast⟩
      exact List.mem_cons_of_mem _ (List.mem_cons_of_mem _ (List.mem_map_of_mem hmem))
  · rw [beq_iff_eq.mp hpoint]
    exact ⟨(0x2E, 0x2E), List.mem_cons_self, by decide⟩

theorem not_isBlank_of_isNumberChar
    {c : Char} (h : isNumberChar c = true) :
    isBlank c = false := by
  rcases (Bool.or_eq_true _ _).mp h with hdigit | hpoint
  · exact not_isBlank_of_isDigit hdigit
  · rw [beq_iff_eq.mp hpoint]
    decide

/-!
## Single characters
-/

theorem toLower_ascii_number
    {c : Char} (h : c.toNat < 0x80) :
    (isWordChar c = true -> isWordChar c.toLower = true) ∧
      (isNumberChar c = true ∨ isNumberChar c.toLower = true -> c.toLower = c) :=
  forall_ascii h (by decide)

def apartFromNumbers (run : CaseRun) : Bool :=
  numberRanges.all fun range => !run.imageWithin range &&
    (Nat.blt run.last 0x80 || Nat.blt run.last range.1 || Nat.blt range.2 run.first)

def keepsWordChars (run : CaseRun) : Bool :=
  Nat.blt run.last 0x80 || (Nat.beq run.first run.last && isWordChar (Char.ofNat run.lowImage)) ||
    (alphanumericRanges.any fun range =>
      Nat.ble 0x80 range.1 && (Nat.ble range.1 run.lowImage && Nat.ble run.highImage range.2)) ||
    alphanumericRanges.all fun range => Nat.blt range.2 run.first || Nat.blt run.last range.1

theorem lowerRuns_apartFromNumbers :
    lowerRuns.all apartFromNumbers = true := by
  decide +kernel

theorem lowerRuns_keepsWordChars :
    lowerRuns.all keepsWordChars = true := by
  decide +kernel

theorem CodeRange.mem_of_contains
    {ranges : List CodeRange} {code : Nat} (h : contains ranges code = true) :
    exists range : CodeRange, range ∈ ranges ∧ range.1 ≤ code ∧ code ≤ range.2 := by
  induction ranges with
  | nil => cases h
  | cons head ranges ih =>
      rw [contains] at h
      split at h
      · cases h
      · rename_i hfirst
        rcases (Bool.or_eq_true _ _).mp h with hhere | hrest
        · exact ⟨head, List.mem_cons_self, Nat.le_of_not_lt hfirst, of_decide_eq_true hhere⟩
        · rcases ih hrest with ⟨range, hmem, hrange⟩
          exact ⟨range, List.mem_cons_of_mem head hmem, hrange⟩

theorem isWordChar_large
    {c : Char} (h : ¬ c.toNat < 0x80) :
    isWordChar c = CodeRange.contains alphanumericRanges c.toNat := by
  have hunderscore : (c == '_') = false := by
    rw [beq_eq_false_iff_ne]
    rintro rfl
    exact h (by decide)
  rw [isWordChar, hunderscore, isAlphanumeric, if_neg h, Bool.false_or]

theorem not_isNumberChar_image
    {run : CaseRun} {c : Char} (hmem : run ∈ lowerRuns) (hcovers : run.covers c.toNat = true)
    (hlarge : ¬ c.toNat < 0x80) :
    isNumberChar c = false ∧
      isNumberChar (Char.ofNat (c.toNat + run.distance).toNat) = false := by
  have hrun := List.all_eq_true.mp (List.all_eq_true.mp lowerRuns_apartFromNumbers run hmem)
  have hcode := CaseRun.toNat_image hcovers (mem_lowerRuns_settled hmem).1
  constructor
  · rw [Bool.eq_false_iff]
    intro hnumber
    rcases isNumberChar_within hnumber with ⟨range, hrange, hlow, hhigh⟩
    rcases CaseRun.covers_bounds hcovers with ⟨hfirst, hlast, _⟩
    have hapart := ((Bool.and_eq_true _ _).mp (hrun range hrange)).2
    simp only [Bool.or_eq_true, Nat.blt_eq] at hapart
    omega
  · rw [Bool.eq_false_iff]
    intro hnumber
    rcases isNumberChar_within hnumber with ⟨range, hrange, hwithin⟩
    rw [hcode] at hwithin
    have hapart := ((Bool.and_eq_true _ _).mp (hrun range hrange)).1
    rw [Bool.not_eq_true'] at hapart
    exact CaseRun.not_within_image hcovers hapart hwithin

theorem isWordChar_image
    {run : CaseRun} {c : Char} (hmem : run ∈ lowerRuns) (hcovers : run.covers c.toNat = true)
    (hlarge : ¬ c.toNat < 0x80) (hword : isWordChar c = true) :
    isWordChar (Char.ofNat (c.toNat + run.distance).toNat) = true := by
  have hrun := List.all_eq_true.mp lowerRuns_keepsWordChars run hmem
  have hcode := CaseRun.toNat_image hcovers (mem_lowerRuns_settled hmem).1
  rcases CaseRun.covers_bounds hcovers with ⟨hfirst, hlast, _⟩
  simp only [keepsWordChars, Bool.or_eq_true, Bool.and_eq_true, Nat.blt_eq, Nat.beq_eq] at hrun
  rcases hrun with ((hsmall | ⟨hone, himage⟩) | hin) | hapart
  · omega
  · have hlow : (c.toNat + run.distance).toNat = run.lowImage := by
      have hc : c.toNat = run.first := by omega
      rw [hc]
      rfl
    rw [hlow]
    exact himage
  · rcases List.any_eq_true.mp hin with ⟨range, hrange, hbounds⟩
    simp only [Bool.and_eq_true, Nat.ble_eq] at hbounds
    rcases hbounds with ⟨hlarge, hlow, hhigh⟩
    unfold CaseRun.lowImage at hlow
    unfold CaseRun.highImage at hhigh
    have hlarge' : ¬ (Char.ofNat (c.toNat + run.distance).toNat).toNat < 0x80 := by
      rw [hcode]
      omega
    rw [isWordChar_large hlarge', hcode]
    exact CodeRange.contains_of_mem alphanumericRanges_sorted hrange (by omega) (by omega)
  · rw [isWordChar_large hlarge] at hword
    rcases CodeRange.mem_of_contains hword with ⟨range, hrange, hlow, hhigh⟩
    have hbounds := List.all_eq_true.mp hapart range hrange
    simp only [Bool.or_eq_true, Nat.blt_eq] at hbounds
    omega

/-- The lower case of a character: one character, of a number only if it is the character itself,
or the two that a dotted capital I becomes. -/
theorem lowerChar_cases (c : Char) :
    c = dottedI ∧ lowerChar c = ['i', Char.ofNat 0x307] ∨
      exists d : Char, lowerChar c = [d] ∧ (isWordChar c = true -> isWordChar d = true) ∧
        (isNumberChar c = true ∨ isNumberChar d = true -> d = c) := by
  unfold lowerChar
  split
  · rename_i hascii
    exact Or.inr ⟨c.toLower, rfl, toLower_ascii_number hascii⟩
  · split
    · rename_i hdotted
      left
      refine ⟨?_, rfl⟩
      rw [← Char.ofNat_toNat c, hdotted]
      rfl
    · rename_i hlarge _
      right
      refine ⟨_, rfl, ?_⟩
      unfold CaseRun.apply
      cases hfind : lowerRuns.find? (fun run => run.covers c.toNat) with
      | none => exact ⟨id, fun _ => rfl⟩
      | some run =>
          have hcovers : run.covers c.toNat = true := by simpa using List.find?_some hfind
          have hmem := List.mem_of_find?_eq_some hfind
          refine ⟨isWordChar_image hmem hcovers hlarge, ?_⟩
          rcases not_isNumberChar_image hmem hcovers hlarge with ⟨hc, himage⟩
          rintro (hnumber | hnumber)
          · rw [hc] at hnumber
            cases hnumber
          · rw [himage] at hnumber
            cases hnumber

/-!
## Texts
-/

/-- A text beside its lower case, character by character; a sigma may take either form. -/
inductive Lowered : List Char -> List Char -> Prop where
  | nil : Lowered [] []
  | one {c d : Char} {text lowered : List Char} :
      (isWordChar c = true -> isWordChar d = true) ->
      (isNumberChar c = true ∨ isNumberChar d = true -> d = c) ->
      Lowered text lowered -> Lowered (c :: text) (d :: lowered)
  | dotted {text lowered : List Char} :
      Lowered text lowered -> Lowered (dottedI :: text) ('i' :: Char.ofNat 0x307 :: lowered)

theorem lowered_lowerAfter (before text : List Char) :
    Lowered text (lowerAfter before text) := by
  induction text generalizing before with
  | nil => exact .nil
  | cons c text ih =>
      rw [lowerAfter]
      split
      · rename_i hsigma
        have hc : c = Char.ofNat 0x3A3 := by rw [← Char.ofNat_toNat c, hsigma]
        have hchecked : forall code : Nat, code = 0x3C2 ∨ code = 0x3C3 ->
            isWordChar (Char.ofNat code) = true ∧ isNumberChar (Char.ofNat code) = false := by
          rintro code (rfl | rfl) <;> decide
        have hform := hchecked (if sigmaIsFinal before text then 0x3C2 else 0x3C3) (by
          split
          · exact Or.inl rfl
          · exact Or.inr rfl)
        have hcapital : isNumberChar c = false := by
          rw [hc]
          decide
        refine .one (fun _ => hform.1) ?_ (ih (c :: before))
        rintro (hnumber | hnumber)
        · rw [hcapital] at hnumber
          cases hnumber
        · rw [hform.2] at hnumber
          cases hnumber
      · rcases lowerChar_cases c with ⟨hdotted, hlower⟩ | ⟨d, hlower, hword, hnumber⟩
        · rw [hlower, hdotted]
          exact .dotted (ih _)
        · rw [hlower]
          exact .one hword hnumber (ih (c :: before))

theorem lowered_lower (text : List Char) :
    Lowered text (lower text) :=
  lowered_lowerAfter [] text

namespace Lowered

/-- A character of a number divides the text where it divides its lower case. -/
theorem split
    {text front back : List Char} {c : Char} (h : Lowered text (front ++ c :: back))
    (hc : isNumberChar c = true) :
    exists left right : List Char, text = left ++ c :: right ∧ Lowered left front ∧
      Lowered right back := by
  generalize hlowered : front ++ c :: back = lowered at h
  induction h generalizing front with
  | nil => simp at hlowered
  | @one d e text lowered hword hnumber h ih =>
      cases front with
      | nil =>
          rcases List.cons.inj hlowered with ⟨rfl, rfl⟩
          rw [← hnumber (Or.inr hc)]
          exact ⟨[], text, rfl, .nil, h⟩
      | cons f front =>
          rcases List.cons.inj hlowered with ⟨rfl, hrest⟩
          rcases ih hrest with ⟨left, right, rfl, hleft, hright⟩
          exact ⟨d :: left, right, rfl, .one hword hnumber hleft, hright⟩
  | @dotted text lowered h ih =>
      have hforeign : isNumberChar 'i' = false ∧ isNumberChar (Char.ofNat 0x307) = false := by
        decide
      cases front with
      | nil =>
          rw [(List.cons.inj hlowered).1, hforeign.1] at hc
          cases hc
      | cons f front =>
          rcases List.cons.inj hlowered with ⟨rfl, hrest⟩
          cases front with
          | nil =>
              rw [(List.cons.inj hrest).1, hforeign.2] at hc
              cases hc
          | cons g front =>
              rcases List.cons.inj hrest with ⟨rfl, htail⟩
              rcases ih htail with ⟨left, right, rfl, hleft, hright⟩
              exact ⟨dottedI :: left, right, rfl, .dotted hleft, hright⟩

theorem eq_nil {text : List Char} (h : Lowered text []) :
    text = [] := by
  cases h
  rfl

theorem split_run
    {text run back : List Char} (h : Lowered text (run ++ back))
    (hrun : forall c : Char, c ∈ run -> isNumberChar c = true) :
    exists right : List Char, text = run ++ right ∧ Lowered right back := by
  induction run generalizing text with
  | nil => exact ⟨text, rfl, h⟩
  | cons c run ih =>
      have hsplit := @split text [] (run ++ back) c h (hrun c List.mem_cons_self)
      rcases hsplit with ⟨left, right, rfl, hleft, hright⟩
      rcases ih hright fun d hd => hrun d (List.mem_cons_of_mem c hd) with ⟨rest, rfl, hrest⟩
      rw [hleft.eq_nil]
      exact ⟨rest, rfl, hrest⟩

theorem head
    {text lowered : List Char} {c : Char} (h : Lowered text lowered)
    (hc : text.head? = some c) :
    exists d : Char, lowered.head? = some d ∧ (isWordChar c = true -> isWordChar d = true) ∧
      (isNumberChar c = true -> d = c) := by
  cases h with
  | nil => cases hc
  | one hword hnumber _ =>
      rw [← Option.some.inj hc]
      exact ⟨_, rfl, hword, fun h => hnumber (Or.inl h)⟩
  | dotted _ =>
      rw [← Option.some.inj hc]
      exact ⟨'i', rfl, by decide⟩

theorem last
    {text lowered : List Char} {c : Char} (h : Lowered text lowered)
    (hc : text.getLast? = some c) (hdotted : c ≠ dottedI) :
    exists d : Char, lowered.getLast? = some d ∧ (isWordChar c = true -> isWordChar d = true) ∧
      (isNumberChar c = true -> d = c) := by
  induction h with
  | nil => cases hc
  | @one e d text lowered hword hnumber h ih =>
      cases h with
      | nil =>
          rw [← Option.some.inj hc]
          exact ⟨d, rfl, hword, fun h => hnumber (Or.inl h)⟩
      | one _ _ _ => exact ih hc
      | dotted _ => exact ih hc
  | dotted h ih =>
      cases h with
      | nil => exact absurd (Option.some.inj hc).symm hdotted
      | one _ _ _ => exact ih hc
      | dotted _ => exact ih hc

end Lowered

end Text

end CatalogSearch
