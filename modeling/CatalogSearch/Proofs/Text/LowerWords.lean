import CatalogSearch.Proofs.Text.Characters
import CatalogSearch.Proofs.Text.Words
import CatalogSearch.Text.LowerCase

/-!
# Lower case keeps words apart

Lower case changes no blank and makes none, so that the words of a text in lower case are its
words in lower case: a sigma at the end of a word is seen as final across a blank.  What is in
lower case stays as it is.
-/

namespace CatalogSearch

namespace Text

/-!
## Images of runs
-/

namespace CaseRun

def lowImage (run : CaseRun) : Nat :=
  (run.first + run.distance).toNat

def highImage (run : CaseRun) : Nat :=
  (run.last + run.distance).toNat

def hasParity (run : CaseRun) : Bool :=
  Nat.beq run.step 2 || Nat.beq run.first run.last

def imageWithin (run : CaseRun) (range : CodeRange) : Bool :=
  Nat.ble range.1 run.highImage && Nat.ble run.lowImage range.2

def imageMeets (run other : CaseRun) : Bool :=
  Nat.ble other.first run.highImage && (Nat.ble run.lowImage other.last &&
    !(run.hasParity && (Nat.beq other.step 2 && Nat.beq ((run.lowImage + other.first) % 2) 1)))

def imageValid (run : CaseRun) : Bool :=
  decide (0 ≤ run.first + run.distance) &&
    (Nat.blt run.highImage 0xD800 ||
      (Nat.blt 0xDFFF run.lowImage && Nat.blt run.highImage 0x110000))

theorem covers_bounds
    {run : CaseRun} {code : Nat} (h : run.covers code = true) :
    run.first ≤ code ∧ code ≤ run.last ∧ (code - run.first) % run.step = 0 := by
  simp only [covers, Bool.and_eq_true, decide_eq_true_iff, beq_iff_eq] at h
  exact ⟨h.1.1, h.1.2, h.2⟩

theorem not_within_image
    {run : CaseRun} {code : Nat} {range : CodeRange} (hcovers : run.covers code = true)
    (h : run.imageWithin range = false) :
    ¬ (range.1 ≤ (code + run.distance).toNat ∧ (code + run.distance).toNat ≤ range.2) := by
  rcases covers_bounds hcovers with ⟨hlow, hhigh, _⟩
  have hboth : ¬ (range.1 ≤ run.highImage ∧ run.lowImage ≤ range.2) := by
    intro hmeet
    have hwithin : run.imageWithin range = true := by
      rw [imageWithin, Nat.ble_eq_true_of_le hmeet.1, Nat.ble_eq_true_of_le hmeet.2]
      rfl
    rw [hwithin] at h
    cases h
  unfold lowImage highImage at hboth
  omega

theorem not_covers_image
    {run other : CaseRun} {code : Nat} (hcovers : run.covers code = true)
    (hvalid : run.imageValid = true) (h : run.imageMeets other = false) :
    other.covers (code + run.distance).toNat = false := by
  rcases covers_bounds hcovers with ⟨hlow, hhigh, hstep⟩
  have hpositive : 0 ≤ run.first + run.distance := by
    simp only [imageValid, Bool.and_eq_true, decide_eq_true_iff] at hvalid
    exact hvalid.1
  cases hother : other.covers (code + run.distance).toNat with
  | false => rfl
  | true =>
      rcases covers_bounds hother with ⟨hotherLow, hotherHigh, hotherStep⟩
      have hmeet : other.first ≤ run.highImage ∧ run.lowImage ≤ other.last := by
        unfold lowImage highImage
        omega
      have hapart : run.hasParity = true ∧ other.step.beq 2 = true ∧
          ((run.lowImage + other.first) % 2).beq 1 = true := by
        rw [imageMeets, Nat.ble_eq_true_of_le hmeet.1, Nat.ble_eq_true_of_le hmeet.2] at h
        simpa using h
      rcases hapart with ⟨hparity, htwo, hodd⟩
      rw [hasParity, Bool.or_eq_true, Nat.beq_eq, Nat.beq_eq] at hparity
      rw [Nat.beq_eq] at htwo hodd
      unfold lowImage at hodd
      rw [htwo] at hotherStep
      rcases hparity with hparity | hparity
      · rw [hparity] at hstep
        omega
      · omega

theorem toNat_image
    {run : CaseRun} {code : Nat} (hcovers : run.covers code = true) (h : run.imageValid = true) :
    (Char.ofNat (code + run.distance).toNat).toNat = (code + run.distance).toNat := by
  rcases covers_bounds hcovers with ⟨hlow, hhigh, _⟩
  have hrange : run.highImage < 0xD800 ∨ (0xDFFF < run.lowImage ∧ run.highImage < 0x110000) := by
    simp only [imageValid, Bool.and_eq_true, Bool.or_eq_true, Nat.blt_eq] at h
    exact h.2
  have hvalid : ((code : Int) + run.distance).toNat.isValidChar := by
    unfold Nat.isValidChar
    unfold lowImage highImage at hrange
    omega
  rw [Char.ofNat, dif_pos hvalid]
  rfl

theorem apply_eq_self
    {runs : List CaseRun} {c : Char}
    (h : forall run : CaseRun, run ∈ runs -> run.covers c.toNat = false) :
    apply runs c = c := by
  have hfind : runs.find? (fun run => run.covers c.toNat) = none := by
    rw [List.find?_eq_none]
    intro run hmem hcovers
    rw [h run hmem] at hcovers
    cases hcovers
  rw [apply, hfind]

end CaseRun

def blankRanges : List CodeRange := [
  (0x09, 0x0D), (0x1C, 0x20), (0x85, 0x85), (0xA0, 0xA0), (0x1680, 0x1680), (0x2000, 0x200A),
  (0x2028, 0x2029), (0x202F, 0x202F), (0x205F, 0x205F), (0x3000, 0x3000)]

theorem isBlank_iff (c : Char) :
    isBlank c = true <->
      exists range : CodeRange, range ∈ blankRanges ∧ range.1 ≤ c.toNat ∧ c.toNat ≤ range.2 := by
  simp only [isBlank, blankRanges, List.mem_cons, List.not_mem_nil, or_false, exists_eq_or_imp,
    exists_eq_left, Bool.or_eq_true, Bool.and_eq_true, decide_eq_true_iff, beq_iff_eq]
  omega

theorem forall_blank
    {P : Nat -> Prop} (h : forall range : CodeRange, range ∈ blankRanges ->
      forall offset : Fin 11, range.1 + offset.val ≤ range.2 -> P (range.1 + offset.val))
    {blank : Char} (hblank : isBlank blank = true) :
    P blank.toNat := by
  rcases (isBlank_iff blank).mp hblank with ⟨range, hrange, hlow, hhigh⟩
  have hwidths : forall range : CodeRange, range ∈ blankRanges -> range.2 < range.1 + 11 := by
    decide
  have hwidth := hwidths range hrange
  have hcode := h range hrange ⟨blank.toNat - range.1, by omega⟩
  simp only at hcode
  rw [Nat.add_sub_cancel' hlow] at hcode
  exact hcode hhigh

theorem CaseRun.isBlank_image
    {run : CaseRun} {c : Char} (hcovers : run.covers c.toNat = true)
    (hvalid : run.imageValid = true)
    (h : forall range : CodeRange, range ∈ blankRanges -> run.imageWithin range = false) :
    isBlank (Char.ofNat (c.toNat + run.distance).toNat) = false := by
  cases hblank : isBlank (Char.ofNat (c.toNat + run.distance).toNat) with
  | false => rfl
  | true =>
      rcases (isBlank_iff _).mp hblank with ⟨range, hrange, hwithin⟩
      rw [CaseRun.toNat_image hcovers hvalid] at hwithin
      exact absurd hwithin (CaseRun.not_within_image hcovers (h range hrange))

def CaseRun.withoutBlanks (run : CaseRun) : Bool :=
  blankRanges.all fun range =>
    Nat.blt run.last range.1 || Nat.blt range.2 run.first || Nat.blt range.2 0x80

theorem CaseRun.covers_blank
    {run : CaseRun} {c : Char} (h : run.withoutBlanks = true) (hblank : isBlank c = true)
    (hlarge : 0x80 ≤ c.toNat) :
    run.covers c.toNat = false := by
  rcases (isBlank_iff c).mp hblank with ⟨range, hrange, hlow, hhigh⟩
  have hapart := List.all_eq_true.mp h range hrange
  simp only [Bool.or_eq_true, Nat.blt_eq] at hapart
  cases hcovers : run.covers c.toNat with
  | false => rfl
  | true =>
      rcases CaseRun.covers_bounds hcovers with ⟨hfirst, hlast, _⟩
      omega

/-- The codes that no image in lower case may have: capitals that are no letters of a run, and
white space. -/
def forbiddenImages : List CodeRange :=
  [(0x41, 0x5A), (0x130, 0x130), (0x3A3, 0x3A3)] ++ blankRanges

def imagesSettled (run : CaseRun) : Bool :=
  run.imageValid && forbiddenImages.all (fun range => !run.imageWithin range) &&
    lowerRuns.all fun other => !run.imageMeets other

/-!
## Single characters
-/

def IsLower (c : Char) : Prop :=
  lowerChar c = [c] ∧ c.toNat ≠ 0x3A3

instance (c : Char) : Decidable (IsLower c) :=
  inferInstanceAs (Decidable (_ ∧ _))

theorem toLower_eq_self
    {c : Char} (h : ¬ (0x41 ≤ c.toNat ∧ c.toNat ≤ 0x5A)) :
    c.toLower = c := by
  apply toLower_of_not_isUpper
  intro hupper
  apply h
  have hbounds : c.val ≥ 'A'.val ∧ c.val ≤ 'Z'.val := of_decide_eq_true hupper
  rw [ge_iff_le, UInt32.le_iff_toNat_le, UInt32.le_iff_toNat_le] at hbounds
  exact hbounds

theorem toLower_ascii
    {c : Char} (h : c.toNat < 0x80) :
    c.toLower.toNat < 0x80 ∧ c.toLower.toLower = c.toLower ∧ isBlank c.toLower = isBlank c :=
  forall_ascii h (by decide)

theorem isLower_of_isBlank
    {c : Char} (h : isBlank c = true) :
    IsLower c := by
  have hruns : lowerRuns.all CaseRun.withoutBlanks = true := by decide
  rcases (isBlank_iff c).mp h with ⟨range, hrange, hlow, hhigh⟩
  have hspecial : c.toNat ≠ 0x130 ∧ c.toNat ≠ 0x3A3 ∧ ¬ (0x41 ≤ c.toNat ∧ c.toNat ≤ 0x5A) := by
    simp only [blankRanges, List.mem_cons, List.not_mem_nil, or_false] at hrange
    rcases hrange with rfl | rfl | rfl | rfl | rfl | rfl | rfl | rfl | rfl | rfl
    all_goals
      simp only at hlow hhigh
      omega
  constructor
  · unfold lowerChar
    split
    · rw [toLower_eq_self hspecial.2.2]
    · rw [if_neg hspecial.1, CaseRun.apply_eq_self fun run hmem =>
        CaseRun.covers_blank (List.all_eq_true.mp hruns run hmem) h (by omega)]
  · exact hspecial.2.1

theorem lowerRuns_settled :
    lowerRuns.all imagesSettled = true := by
  decide +kernel

theorem mem_lowerRuns_settled
    {run : CaseRun} (h : run ∈ lowerRuns) :
    run.imageValid = true ∧
      (forall range : CodeRange, range ∈ forbiddenImages -> run.imageWithin range = false) ∧
      forall other : CaseRun, other ∈ lowerRuns -> run.imageMeets other = false := by
  have hrun := List.all_eq_true.mp lowerRuns_settled run h
  simp only [imagesSettled, Bool.and_eq_true, List.all_eq_true, Bool.not_eq_true'] at hrun
  exact ⟨hrun.1.1, hrun.1.2, hrun.2⟩

theorem image_settled
    {run : CaseRun} {c : Char} (hmem : run ∈ lowerRuns) (hcovers : run.covers c.toNat = true) :
    IsLower (Char.ofNat (c.toNat + run.distance).toNat) ∧
      isBlank (Char.ofNat (c.toNat + run.distance).toNat) = false := by
  rcases mem_lowerRuns_settled hmem with ⟨hvalid, hforbidden, hmeets⟩
  have hcode := CaseRun.toNat_image hcovers hvalid
  have hsolid := CaseRun.isBlank_image hcovers hvalid fun range hrange =>
    hforbidden range (List.mem_append_right _ hrange)
  have hforbid : forall range : CodeRange, range ∈ forbiddenImages ->
      ¬ (range.1 ≤ (Char.ofNat (c.toNat + run.distance).toNat).toNat ∧
        (Char.ofNat (c.toNat + run.distance).toNat).toNat ≤ range.2) := by
    intro range hrange
    rw [hcode]
    exact CaseRun.not_within_image hcovers (hforbidden range hrange)
  have huncovered : forall other : CaseRun, other ∈ lowerRuns ->
      other.covers (Char.ofNat (c.toNat + run.distance).toNat).toNat = false := by
    intro other hother
    rw [hcode]
    exact CaseRun.not_covers_image hcovers hvalid (hmeets other hother)
  generalize Char.ofNat (c.toNat + run.distance).toNat = image at hsolid hforbid huncovered ⊢
  have hcapital := hforbid (0x41, 0x5A) (by decide)
  have hdotted := hforbid (0x130, 0x130) (by decide)
  have hsigma := hforbid (0x3A3, 0x3A3) (by decide)
  simp only at hcapital hdotted hsigma
  refine ⟨⟨?_, by omega⟩, hsolid⟩
  unfold lowerChar
  split
  · rw [toLower_eq_self hcapital]
  · rw [if_neg (by omega), CaseRun.apply_eq_self huncovered]

theorem lowerChar_settled (c : Char) :
    lowerChar c ≠ [] ∧ forall d : Char, d ∈ lowerChar c -> c.toNat ≠ 0x3A3 ->
      IsLower d ∧ (isBlank c = false -> isBlank d = false) := by
  unfold lowerChar
  split
  · rename_i hascii
    rcases toLower_ascii hascii with ⟨hlt, hlower, hblank⟩
    constructor
    · exact List.cons_ne_nil _ _
    · intro d hmem hsigma
      rw [List.mem_singleton.mp hmem]
      constructor
      · constructor
        · rw [lowerChar, if_pos hlt, hlower]
        · omega
      · intro hsolid
        rw [hblank]
        exact hsolid
  · split
    · constructor
      · exact List.cons_ne_nil _ _
      · intro d hmem _
        have hd : IsLower d ∧ isBlank d = false := forall_mem_of_check hmem (by decide)
        exact ⟨hd.1, fun _ => hd.2⟩
    · rename_i hlarge hdotted
      constructor
      · exact List.cons_ne_nil _ _
      · intro d hmem hsigma
        rw [List.mem_singleton.mp hmem]
        unfold CaseRun.apply
        cases hfind : lowerRuns.find? (fun run => run.covers c.toNat) with
        | none =>
            constructor
            · constructor
              · rw [lowerChar, if_neg hlarge, if_neg hdotted, CaseRun.apply, hfind]
              · exact hsigma
            · intro hsolid
              exact hsolid
        | some run =>
            have hcovers : run.covers c.toNat = true := by simpa using List.find?_some hfind
            have hrun := image_settled (List.mem_of_find?_eq_some hfind) hcovers
            exact ⟨hrun.1, fun _ => hrun.2⟩

/-!
## Texts
-/

theorem meetsCased_blank
    {blank : Char} (rest : List Char) (h : isBlank blank = true) :
    meetsCased (blank :: rest) = false := by
  have hcode := @forall_blank
    (fun code => CodeRange.contains caseIgnorableRanges code = false ∧
      CodeRange.contains casedRanges code = false) (by decide +kernel) blank h
  rw [meetsCased, hcode.1, hcode.2]
  rfl

/-- What lies behind a blank has no part in whether a cased character is met. -/
theorem meetsCased_append_blank
    {blank : Char} (front back : List Char) (h : isBlank blank = true) :
    meetsCased (front ++ blank :: back) = meetsCased front := by
  induction front with
  | nil => exact meetsCased_blank back h
  | cons c front ih =>
      rw [List.cons_append, meetsCased, meetsCased, ih]

/-- Lower case before a blank does not depend on what follows it. -/
theorem lowerAfter_append_blank
    {blank : Char} (before front back : List Char) (h : isBlank blank = true) :
    lowerAfter before (front ++ blank :: back) =
      lowerAfter before front ++ blank :: lowerAfter (blank :: (front.reverse ++ before)) back := by
  induction front generalizing before with
  | nil =>
      have hlower := isLower_of_isBlank h
      rw [List.nil_append, lowerAfter, lowerAfter, if_neg hlower.2, hlower.1]
      rfl
  | cons c front ih =>
      have hsigma : sigmaIsFinal before (front ++ blank :: back) = sigmaIsFinal before front := by
        rw [sigmaIsFinal, sigmaIsFinal, meetsCased_append_blank front back h]
      rw [List.cons_append, lowerAfter, lowerAfter, hsigma, ih (c :: before), List.append_assoc,
        List.reverse_cons, List.append_assoc, List.singleton_append]

/-- Lower case behind a blank does not depend on what comes before it. -/
theorem lowerAfter_blank
    {blank : Char} (near far text : List Char) (h : isBlank blank = true) :
    lowerAfter (near ++ blank :: far) text = lowerAfter near text := by
  induction text generalizing near with
  | nil => rfl
  | cons c text ih =>
      have hsigma : sigmaIsFinal (near ++ blank :: far) text = sigmaIsFinal near text := by
        rw [sigmaIsFinal, sigmaIsFinal, meetsCased_append_blank near far h]
      have hrest := ih (c :: near)
      rw [List.cons_append] at hrest
      rw [lowerAfter, lowerAfter, hsigma, hrest]

theorem lower_append_blank
    {blank : Char} (front back : List Char) (h : isBlank blank = true) :
    lower (front ++ blank :: back) = lower front ++ blank :: lower back := by
  have hback := lowerAfter_blank [] front.reverse back h
  rw [List.nil_append] at hback
  rw [lower, lowerAfter_append_blank [] front back h, List.append_nil, hback]
  rfl

theorem lower_joinWords (list : List (List Char)) :
    lower (joinWords list) = joinWords (list.map lower) := by
  induction list with
  | nil => rfl
  | cons word rest ih =>
      cases rest with
      | nil => rfl
      | cons next rest =>
          rw [joinWords_cons_cons, lower_append_blank word _ isBlank_space, ih]
          rfl

theorem mem_lowerAfter
    {before text : List Char} {d : Char} (h : d ∈ lowerAfter before text) :
    IsLower d ∧ ((forall c : Char, c ∈ text -> isBlank c = false) -> isBlank d = false) := by
  induction text generalizing before with
  | nil => cases h
  | cons c text ih =>
      rw [lowerAfter] at h
      rcases List.mem_append.mp h with hfirst | hrest
      · split at hfirst
        · have hmem : d ∈ [Char.ofNat 0x3C2, Char.ofNat 0x3C3] := by
            rw [List.mem_singleton.mp hfirst]
            split
            · exact List.mem_cons_self
            · exact List.mem_cons_of_mem _ List.mem_cons_self
          have hd : IsLower d ∧ isBlank d = false :=
            forall_mem_of_check hmem (by decide)
          exact ⟨hd.1, fun _ => hd.2⟩
        · rename_i hsigma
          have hd := (lowerChar_settled c).2 d hfirst hsigma
          exact ⟨hd.1, fun hsolid => hd.2 (hsolid c List.mem_cons_self)⟩
      · have hd := ih hrest
        exact ⟨hd.1, fun hsolid => hd.2 (fun e hmem => hsolid e (List.mem_cons_of_mem c hmem))⟩

theorem lowerAfter_ne_nil
    {text : List Char} (before : List Char) (h : text ≠ []) :
    lowerAfter before text ≠ [] := by
  cases text with
  | nil => exact absurd rfl h
  | cons c text =>
      intro hnil
      rw [lowerAfter] at hnil
      have hfirst := (List.append_eq_nil_iff.mp hnil).1
      split at hfirst
      · cases hfirst
      · exact (lowerChar_settled c).1 hfirst

theorem isWord_lower
    {word : List Char} (h : IsWord word) :
    IsWord (lower word) := by
  constructor
  · exact lowerAfter_ne_nil [] h.ne_nil
  · intro d hmem
    exact (mem_lowerAfter hmem).2 h.solid

theorem lowerAfter_of_isLower
    {text : List Char} (before : List Char) (h : forall c : Char, c ∈ text -> IsLower c) :
    lowerAfter before text = text := by
  induction text generalizing before with
  | nil => rfl
  | cons c text ih =>
      have hc := h c List.mem_cons_self
      rw [lowerAfter, if_neg hc.2, hc.1, ih _ (fun d hmem => h d (List.mem_cons_of_mem c hmem)),
        List.singleton_append]

@[simp] theorem lower_lower (text : List Char) :
    lower (lower text) = lower text :=
  lowerAfter_of_isLower [] (fun _ hmem => (mem_lowerAfter hmem).1)

/-- The words of a text in lower case are its words in lower case. -/
theorem words_lower_collapse (text : List Char) :
    words (lower (collapse text)) = (words text).map lower := by
  unfold collapse
  rw [lower_joinWords, words_joinWords]
  intro word hmem
  rcases List.mem_map.mp hmem with ⟨other, hother, hlower⟩
  rw [← hlower]
  exact isWord_lower (isWord_of_mem_words hother)

theorem collapse_lower_lower_collapse (text : List Char) :
    collapse (lower (lower (collapse text))) = lower (collapse text) := by
  rw [lower_lower, collapse, words_lower_collapse, collapse, lower_joinWords]

/-!
## Words in lower case
-/

structure IsLowerWord (word : List Char) : Prop where
  isWord : IsWord word
  isLower : forall c : Char, c ∈ word -> IsLower c

theorem IsLowerWord.lower_eq
    {word : List Char} (h : IsLowerWord word) :
    lower word = word :=
  lowerAfter_of_isLower [] h.isLower

theorem isLowerWord_of_mem_words
    {text word : List Char} (htext : forall c : Char, c ∈ text -> IsLower c)
    (h : word ∈ words text) :
    IsLowerWord word :=
  ⟨isWord_of_mem_words h, fun c hc => htext c (mem_of_mem_words h hc)⟩

end Text

end CatalogSearch
