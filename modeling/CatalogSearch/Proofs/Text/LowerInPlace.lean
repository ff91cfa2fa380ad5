import CatalogSearch.Proofs.Text.LowerWords
import CatalogSearch.Proofs.Text.WordByWord
import Mathlib.Data.List.Count

/-!
# Lower case in place

A part of a text need not be found in the lower case of the text by its own
lower case: a capital sigma takes the form that the whole text asks for, and at
an end of the part that may be another one.  The lower case of a part is the
one by itself wherever each sigma in it is seen alike from the whole text, and
it is so in every text exactly if the part alone settles the form of each.
-/

namespace CatalogSearch

namespace Text

/-!
## What settles a sigma
-/

def firstCase? : List Char -> Option Bool
  | [] => none
  | c :: rest =>
      if CodeRange.contains caseIgnorableRanges c.toNat then firstCase? rest
      else some (CodeRange.contains casedRanges c.toNat)

theorem firstCase?_append (front back : List Char) :
    firstCase? (front ++ back) = (firstCase? front).or (firstCase? back) := by
  induction front with
  | nil => rfl
  | cons c front ih =>
      rw [List.cons_append, firstCase?, firstCase?, ih]
      split
      · rfl
      · rfl

theorem meetsCased_eq (text : List Char) : meetsCased text = (firstCase? text == some true) := by
  induction text with
  | nil => rfl
  | cons c rest ih =>
      rw [meetsCased, firstCase?, ih]
      split
      · rfl
      · cases CodeRange.contains casedRanges c.toNat <;> rfl

theorem sigmaIsFinal_eq (before after : List Char) :
    sigmaIsFinal before after =
      (firstCase? before == some true && !(firstCase? after == some true)) := by
  rw [sigmaIsFinal, meetsCased_eq, meetsCased_eq]

/-- Whether the form of a sigma is settled by what comes before it, in reverse, and after it.  A
caseless character before it or a cased one after it keeps it from being final, and a cased one
before it with a caseless one after it makes it final; otherwise more text may tell. -/
def sigmaIsSettled (before after : List Char) : Bool :=
  firstCase? before == some false || firstCase? after == some true ||
    (firstCase? before == some true && firstCase? after == some false)

theorem sigmaIsFinal_of_settled {before after : List Char}
    (h : sigmaIsSettled before after = true) (front back : List Char) :
    sigmaIsFinal (before ++ front) (after ++ back) = sigmaIsFinal before after := by
  unfold sigmaIsSettled at h
  rw [sigmaIsFinal_eq, sigmaIsFinal_eq, firstCase?_append, firstCase?_append]
  rcases hbefore : firstCase? before with _ | _ | _ <;>
    rcases hafter : firstCase? after with _ | _ | _ <;> simp [hbefore, hafter] at h ⊢

theorem firstCase?_letter : firstCase? ['a'] = some true := by
  decide

/-- A letter on one side gives a sigma that is not settled its other form. -/
theorem sigmaIsFinal_of_letter {before after : List Char}
    (h : sigmaIsSettled before after = false) :
    (sigmaIsFinal before after = false ∧ sigmaIsFinal (before ++ ['a']) after = true) ∨
      (sigmaIsFinal before after = true ∧ sigmaIsFinal before (after ++ ['a']) = false) := by
  unfold sigmaIsSettled at h
  simp only [sigmaIsFinal_eq, firstCase?_append, firstCase?_letter]
  rcases hbefore : firstCase? before with _ | _ | _ <;>
    rcases hafter : firstCase? after with _ | _ | _ <;> simp [hbefore, hafter] at h ⊢

theorem sigmaIsFinal_without_letter (before after : List Char) :
    (sigmaIsFinal (before ++ ['a']) after = false -> sigmaIsFinal before after = false) ∧
      (sigmaIsFinal before (after ++ ['a']) = true -> sigmaIsFinal before after = true) := by
  simp only [sigmaIsFinal_eq, firstCase?_append, firstCase?_letter]
  rcases firstCase? before with _ | _ | _ <;> rcases firstCase? after with _ | _ | _ <;> simp

def capitalSigma : Char :=
  Char.ofNat 0x3A3

theorem eq_capitalSigma {c : Char} (h : c.toNat = 0x3A3) : c = capitalSigma := by
  rw [← Char.ofNat_toNat c, h]
  rfl

def sigmasSettledAfter (before : List Char) : List Char -> Bool
  | [] => true
  | c :: rest =>
      (c.toNat != 0x3A3 || sigmaIsSettled before rest) && sigmasSettledAfter (c :: before) rest

def sigmasSettled (text : List Char) : Bool :=
  sigmasSettledAfter [] text

theorem sigmasSettledAfter_iff {before text : List Char} :
    sigmasSettledAfter before text = true <->
      forall shown hidden : List Char, text = shown ++ capitalSigma :: hidden ->
        sigmaIsSettled (shown.reverse ++ before) hidden = true := by
  induction text generalizing before with
  | nil =>
      refine iff_of_true rfl ?_
      intro shown hidden htext
      simp at htext
  | cons c rest ih =>
      rw [sigmasSettledAfter, Bool.and_eq_true, ih]
      constructor
      · rintro ⟨hfirst, hrest⟩ shown hidden htext
        cases shown with
        | nil =>
            injection htext with hc hhidden
            subst hc hhidden
            exact hfirst
        | cons d shown =>
            injection htext with hc hrestText
            subst hc
            have hsettled := hrest shown hidden hrestText
            rwa [List.reverse_cons, List.append_assoc, List.singleton_append]
      · intro h
        constructor
        · by_cases hc : c.toNat = 0x3A3
          · have hsettled : sigmaIsSettled before rest = true :=
              h [] rest (by rw [eq_capitalSigma hc]; rfl)
            rw [hsettled, Bool.or_true]
          · simp [hc]
        · intro shown hidden hrest
          have hsettled := h (c :: shown) hidden (by rw [hrest]; rfl)
          rwa [List.reverse_cons, List.append_assoc, List.singleton_append] at hsettled

/-!
## Parts between other text
-/

def smallSigma (final : Bool) : Char :=
  Char.ofNat (if final then 0x3C2 else 0x3C3)

theorem smallSigma_inj {final other : Bool} :
    smallSigma final = smallSigma other <-> final = other := by
  revert final other
  decide

/-- The lower case of a part of a text, between what comes before it, in reverse, and after it. -/
def lowerBetween (before : List Char) : List Char -> List Char -> List Char
  | [], _ => []
  | c :: part, after =>
      (if c.toNat = 0x3A3 then [smallSigma (sigmaIsFinal before (part ++ after))]
      else lowerChar c) ++ lowerBetween (c :: before) part after

theorem lowerAfter_append (before part after : List Char) :
    lowerAfter before (part ++ after) =
      lowerBetween before part after ++ lowerAfter (part.reverse ++ before) after := by
  induction part generalizing before with
  | nil => rfl
  | cons c part ih =>
      rw [List.cons_append, lowerAfter, lowerBetween, ih, List.reverse_cons, List.append_assoc,
        List.append_assoc, List.singleton_append]
      rfl

theorem lowerBetween_append (before part more after : List Char) :
    lowerBetween before (part ++ more) after =
      lowerBetween before part (more ++ after) ++
        lowerBetween (part.reverse ++ before) more after := by
  induction part generalizing before with
  | nil => rfl
  | cons c part ih =>
      rw [List.cons_append, lowerBetween, lowerBetween, ih, List.reverse_cons, List.append_assoc,
        List.append_assoc, List.append_assoc, List.singleton_append]

theorem lowerBetween_nil_right (before part : List Char) :
    lowerBetween before part [] = lowerAfter before part := by
  have hwhole := lowerAfter_append before part []
  rw [List.append_nil] at hwhole
  rw [hwhole, lowerAfter, List.append_nil]

def SigmasAgree (front part back : List Char) : Prop :=
  forall shown hidden : List Char, part = shown ++ capitalSigma :: hidden ->
    sigmaIsFinal (shown.reverse ++ front.reverse) (hidden ++ back) =
      sigmaIsFinal shown.reverse hidden

theorem lowerBetween_of_agree {front part back : List Char} (before : List Char)
    (h : forall shown hidden : List Char, part = shown ++ capitalSigma :: hidden ->
      sigmaIsFinal (shown.reverse ++ before ++ front) (hidden ++ back) =
        sigmaIsFinal (shown.reverse ++ before) hidden) :
    lowerBetween (before ++ front) part back = lowerAfter before part := by
  induction part generalizing before with
  | nil => rfl
  | cons c part ih =>
      have hrest : lowerBetween (c :: before ++ front) part back =
          lowerAfter (c :: before) part := by
        apply ih (c :: before)
        intro shown hidden hpart
        have hagree := h (c :: shown) hidden (by rw [hpart]; rfl)
        rwa [List.reverse_cons, List.append_assoc shown.reverse, List.singleton_append] at hagree
      rw [lowerBetween, lowerAfter, ← List.cons_append, hrest]
      by_cases hc : c.toNat = 0x3A3
      · have hagree : sigmaIsFinal (before ++ front) (part ++ back) = sigmaIsFinal before part :=
          h [] part (by rw [eq_capitalSigma hc]; rfl)
        rw [if_pos hc, if_pos hc, hagree]
        rfl
      · rw [if_neg hc, if_neg hc]

theorem lower_split (front part back : List Char) :
    lower (front ++ (part ++ back)) =
      lowerBetween [] front (part ++ back) ++ (lowerBetween front.reverse part back ++
        lowerAfter (part.reverse ++ front.reverse) back) := by
  rw [lower, lowerAfter_append, List.append_nil, lowerAfter_append]

theorem lower_infix_of_agree {front part back : List Char} (h : SigmasAgree front part back) :
    lower part <:+: lower (front ++ (part ++ back)) := by
  have hpart : lowerBetween ([] ++ front.reverse) part back = lowerAfter [] part := by
    apply lowerBetween_of_agree []
    intro shown hidden hsplit
    rw [List.append_nil]
    exact h shown hidden hsplit
  rw [List.nil_append] at hpart
  rw [lower_split, hpart]
  exact List.infix_append' _ _ _

theorem sigmasAgree_of_settled {part : List Char} (h : sigmasSettled part = true)
    (front back : List Char) : SigmasAgree front part back := by
  intro shown hidden hpart
  have hsettled := sigmasSettledAfter_iff.mp h shown hidden hpart
  rw [List.append_nil] at hsettled
  exact sigmaIsFinal_of_settled hsettled front.reverse back

/-!
## Parts that do not settle their sigmas

A letter beside such a part changes one sigma and no other sigma to the form
that it had, so that the form is rarer than in the part alone.
-/

section Rarer

variable {form : Bool} {front back : List Char}

theorem count_lowerBetween_le
    (h : forall before after : List Char,
      sigmaIsFinal (before ++ front) (after ++ back) = form -> sigmaIsFinal before after = form)
    (before part after : List Char) :
    (lowerBetween (before ++ front) part (after ++ back)).count (smallSigma form) ≤
      (lowerBetween before part after).count (smallSigma form) := by
  induction part generalizing before with
  | nil => exact Nat.le_refl 0
  | cons c part ih =>
      rw [lowerBetween, lowerBetween, List.count_append, List.count_append]
      refine Nat.add_le_add ?_ (ih (c :: before))
      split
      · have hform := h before (part ++ after)
        rw [List.append_assoc] at hform
        simp only [List.count_singleton, beq_iff_eq, smallSigma_inj]
        split
        · rename_i heq
          rw [if_pos (hform heq)]
        · exact Nat.zero_le _
      · exact Nat.le_refl _

theorem count_lowerBetween_lt {shown hidden : List Char}
    (h : forall before after : List Char,
      sigmaIsFinal (before ++ front) (after ++ back) = form -> sigmaIsFinal before after = form)
    (halone : sigmaIsFinal shown.reverse hidden = form)
    (hbeside : sigmaIsFinal (shown.reverse ++ front) (hidden ++ back) ≠ form) :
    (lowerBetween front (shown ++ capitalSigma :: hidden) back).count (smallSigma form) <
      (lower (shown ++ capitalSigma :: hidden)).count (smallSigma form) := by
  have hsigma : capitalSigma.toNat = 0x3A3 := by decide
  have hshown := count_lowerBetween_le h [] shown (capitalSigma :: hidden)
  have hhidden := count_lowerBetween_le h (capitalSigma :: shown.reverse) hidden []
  rw [List.nil_append] at hshown
  rw [List.nil_append, List.cons_append] at hhidden
  rw [lower, ← lowerBetween_nil_right, lowerBetween_append, lowerBetween_append, lowerBetween,
    lowerBetween, if_pos hsigma, if_pos hsigma, List.append_nil, List.append_nil, List.append_nil]
  simp only [List.count_append, List.count_singleton, beq_iff_eq, smallSigma_inj, if_pos halone,
    if_neg hbeside]
  omega

/-- A form that is rarer in place, and not found beside the part, tells that the part is not there
by its own lower case. -/
theorem not_infix_of_count_lt {part : List Char}
    (hfront : smallSigma form ∉ lowerBetween [] front (part ++ back))
    (hback : smallSigma form ∉ lowerAfter (part.reverse ++ front.reverse) back)
    (h : (lowerBetween front.reverse part back).count (smallSigma form) <
      (lower part).count (smallSigma form)) :
    ¬ lower part <:+: lower (front ++ (part ++ back)) := by
  intro hinfix
  have hcount := hinfix.sublist.count_le (smallSigma form)
  rw [lower_split, List.count_append, List.count_append, List.count_eq_zero.mpr hfront,
    List.count_eq_zero.mpr hback] at hcount
  omega

end Rarer

theorem lowerBetween_letter (before after : List Char) :
    lowerBetween before ['a'] after = ['a'] := by
  have hletter : lowerChar 'a' = ['a'] := by decide
  rw [lowerBetween, if_neg (by decide), hletter]
  rfl

/-- A part that does not settle its sigmas is in some text in another form than its own. -/
theorem exists_text_of_not_settled {part : List Char} (h : sigmasSettled part = false) :
    exists text : List Char, part <:+: text ∧ ¬ lower part <:+: lower text := by
  have hplace : ¬ forall shown hidden : List Char, part = shown ++ capitalSigma :: hidden ->
      sigmaIsSettled (shown.reverse ++ []) hidden = true := by
    rw [← sigmasSettledAfter_iff]
    exact fun hsettled => Bool.false_ne_true (h.symm.trans hsettled)
  simp only [not_forall, List.append_nil] at hplace
  rcases hplace with ⟨shown, hidden, hpart, hopen⟩
  rcases sigmaIsFinal_of_letter (Bool.eq_false_iff.mpr hopen) with
    ⟨halone, hbeside⟩ | ⟨halone, hbeside⟩
  · -- before the part the letter makes a sigma final
    have hrarer : (lowerBetween ['a'] part []).count (smallSigma false) <
        (lower part).count (smallSigma false) := by
      rw [hpart]
      refine count_lowerBetween_lt ?_ halone ?_
      · intro before after hform
        rw [List.append_nil] at hform
        exact (sigmaIsFinal_without_letter before after).1 hform
      · rw [List.append_nil, hbeside]
        decide
    refine ⟨['a'] ++ (part ++ []), List.infix_append' _ _ _, ?_⟩
    refine not_infix_of_count_lt ?_ List.not_mem_nil hrarer
    rw [lowerBetween_letter]
    decide
  · -- after the part the letter keeps a sigma from being final
    have hrarer : (lowerBetween [] part ['a']).count (smallSigma true) <
        (lower part).count (smallSigma true) := by
      rw [hpart]
      refine count_lowerBetween_lt ?_ halone ?_
      · intro before after hform
        rw [List.append_nil] at hform
        exact (sigmaIsFinal_without_letter before after).2 hform
      · rw [List.append_nil, hbeside]
        decide
    refine ⟨[] ++ (part ++ ['a']), List.infix_append' _ _ _, ?_⟩
    refine not_infix_of_count_lt List.not_mem_nil ?_ hrarer
    rw [← lowerBetween_nil_right, lowerBetween_letter]
    decide

/-- The lower case of a part is in the lower case of every text with the part exactly if the part
settles its sigmas. -/
theorem lower_infix_iff {part : List Char} :
    (forall text : List Char, part <:+: text -> lower part <:+: lower text) <->
      sigmasSettled part = true := by
  constructor
  · intro h
    cases hsettled : sigmasSettled part with
    | true => rfl
    | false =>
        rcases exists_text_of_not_settled hsettled with ⟨text, hpart, hnot⟩
        exact absurd (h text hpart) hnot
  · rintro hsettled text ⟨front, back, rfl⟩
    rw [List.append_assoc]
    exact lower_infix_of_agree (sigmasAgree_of_settled hsettled front back)

/-!
## Whole words
-/

theorem WordByWord.comp_lower {property : List Char -> Prop} (h : WordByWord property) :
    WordByWord fun text => property (lower text) := by
  constructor
  · exact h.nil
  · intro blank front back hblank
    rw [lower_append_blank front back hblank]
    exact h.blank (lower front) (lower back) hblank

/-- The lower case of a word of a text is always in the lower case of the text. -/
theorem lower_infix_of_mem_words {text word : List Char} (h : word ∈ words text) :
    lower word <:+: lower text := by
  have hlower := isWord_lower (isWord_of_mem_words h)
  have hparts := wordByWord_infix hlower.ne_nil hlower.solid
  exact (hparts.comp_lower.iff_words text).mpr ⟨word, h, List.infix_rfl⟩

end Text

end CatalogSearch
