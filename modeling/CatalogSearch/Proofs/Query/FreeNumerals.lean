import CatalogSearch.Proofs.Query.Amounts
import CatalogSearch.Proofs.Text.LowerNumbers
import CatalogSearch.Proofs.Text.WordByWord

/-!
# Numerals that stand free in a text

A numeral stands free where it is no part of a longer word or number.  A text may be taken
apart at every place over which no number reaches: the numerals that stand free in the text are
those of its two parts.  White space is such a place, so that they are the numerals of the
words.
-/

namespace CatalogSearch

open Text Pattern

/-- Whether a text ends so that a numeral behind it is a part of a longer word or number. -/
def blocksNumeral (before : List Char) : Bool :=
  before.getLast?.any fun c => isWordChar c || c == '.'

def numberReaches (before after : List Char) : Bool :=
  (before.getLast?.any isDigit && continuesNumber after) ||
    (after.head?.any isDigit && blocksNumeral before)

def HasNumeral (text : List Char) (digits : Digits) : Prop :=
  exists first last : Place, first.text = text ∧ first.ReadsNumeral digits last

def Pattern.Digits.text (digits : Digits) : List Char :=
  digits.whole ++ Place.pointed digits.fraction

structure Pattern.Digits.IsNumeral (digits : Digits) : Prop where
  whole_ne_nil : digits.whole ≠ []
  whole : forall c : Char, c ∈ digits.whole -> isDigit c = true
  fraction : forall c : Char, c ∈ digits.fraction -> isDigit c = true
  fraction_length : digits.fraction.length ≤ 2

theorem blocksNumeral_eq_false
    {before : List Char} :
    blocksNumeral before = false <->
      forall c : Char, before.getLast? = some c -> isWordChar c = false ∧ c ≠ '.' := by
  unfold blocksNumeral
  cases before.getLast? with
  | none => simp
  | some c => simp

theorem readsNumeral_iff
    {first last : Place} {digits : Digits} :
    first.ReadsNumeral digits last <-> digits.IsNumeral ∧ first.Reads digits.text last ∧
      blocksNumeral first.before = false ∧ continuesNumber last.rest = false := by
  rw [blocksNumeral_eq_false, continuesNumber_eq_false]
  constructor
  · intro h
    exact ⟨⟨h.whole_ne_nil, h.whole, h.fraction, h.fraction_length⟩, h.reads, h.fresh, h.no_word,
      h.no_decimals⟩
  · rintro ⟨hdigits, hreads, hfresh, hword, hdecimals⟩
    exact ⟨hreads, hdigits.whole_ne_nil, hdigits.whole, hdigits.fraction, hdigits.fraction_length,
      hfresh, hword, hdecimals⟩

theorem hasNumeral_iff
    {text : List Char} {digits : Digits} :
    HasNumeral text digits <-> digits.IsNumeral ∧ exists before after : List Char,
      text = before ++ (digits.text ++ after) ∧ blocksNumeral before = false ∧
        continuesNumber after = false := by
  constructor
  · rintro ⟨first, last, htext, hnumeral⟩
    rcases readsNumeral_iff.mp hnumeral with ⟨hdigits, hreads, hfresh, hends⟩
    refine ⟨hdigits, first.before, last.rest, ?_, hfresh, hends⟩
    rw [← htext, ← hreads.rest]
    rfl
  · rintro ⟨hdigits, before, after, htext, hfresh, hends⟩
    refine ⟨⟨before, digits.text ++ after⟩, ⟨before ++ digits.text, after⟩, htext.symm, ?_⟩
    exact readsNumeral_iff.mpr ⟨hdigits, ⟨rfl, rfl⟩, hfresh, hends⟩

theorem hasNumeral_digit {c : Char} (hc : isDigit c = true) :
    HasNumeral [c] ⟨[c], []⟩ :=
  hasNumeral_iff.mpr ⟨⟨List.cons_ne_nil c [], List.forall_mem_singleton.mpr hc, nofun,
    Nat.zero_le 2⟩, [], [], rfl, rfl, rfl⟩

/-!
## What a numeral is made of
-/

namespace Pattern.Digits.IsNumeral

variable {digits : Digits} (h : digits.IsNumeral)

include h

theorem isNumberChar {c : Char} (hc : c ∈ digits.text) :
    isNumberChar c = true := by
  rcases List.mem_append.mp hc with hwhole | hpointed
  · rw [Text.isNumberChar, h.whole c hwhole, Bool.true_or]
  · cases hfraction : digits.fraction with
    | nil =>
        rw [hfraction] at hpointed
        cases hpointed
    | cons d rest =>
        rw [hfraction] at hpointed
        rcases List.mem_cons.mp hpointed with hpoint | hmem
        · rw [hpoint]
          rfl
        · rw [Text.isNumberChar, h.fraction c (hfraction ▸ hmem), Bool.true_or]

theorem text_head :
    exists (c : Char) (rest : List Char), digits.text = c :: rest ∧ isDigit c = true := by
  cases hwhole : digits.whole with
  | nil => exact absurd hwhole h.whole_ne_nil
  | cons c rest =>
      refine ⟨c, rest ++ Place.pointed digits.fraction, ?_, h.whole c (hwhole ▸ List.mem_cons_self)⟩
      rw [text, hwhole]
      rfl

theorem text_ne_nil : digits.text ≠ [] := by
  rcases h.text_head with ⟨c, rest, htext, _⟩
  rw [htext]
  exact List.cons_ne_nil c rest

theorem text_last :
    exists (front : List Char) (c : Char), digits.text = front ++ [c] ∧ isDigit c = true := by
  have hlast : forall run : List Char, run ≠ [] -> (forall c : Char, c ∈ run -> isDigit c = true) ->
      exists (front : List Char) (c : Char), run = front ++ [c] ∧ isDigit c = true := by
    intro run hne hrun
    refine ⟨run.dropLast, run.getLast hne, (List.dropLast_append_getLast hne).symm, ?_⟩
    exact hrun _ (List.getLast_mem hne)
  cases hfraction : digits.fraction with
  | nil =>
      rcases hlast digits.whole h.whole_ne_nil h.whole with ⟨front, c, hwhole, hc⟩
      refine ⟨front, c, ?_, hc⟩
      rw [text, hfraction, hwhole]
      exact List.append_nil _
  | cons d rest =>
      rcases hlast digits.fraction (by rw [hfraction]; exact List.cons_ne_nil d rest)
        h.fraction with ⟨front, c, hsplit, hc⟩
      refine ⟨digits.whole ++ '.' :: front, c, ?_, hc⟩
      have hpointed : Place.pointed digits.fraction = '.' :: digits.fraction := by
        rw [hfraction]
        rfl
      rw [text, hpointed, hsplit, List.append_assoc, List.cons_append]

/-- Within a numeral a character that is no digit is a point behind a digit. -/
theorem chain :
    digits.text.IsChain fun c d => isDigit d = true ∨ isDigit c = true ∧ d = '.' := by
  have hrun : forall (c : Char) (run : List Char), (forall d : Char, d ∈ run -> isDigit d = true) ->
      (c :: run).IsChain fun c d => isDigit d = true ∨ isDigit c = true ∧ d = '.' := by
    intro c run hall
    induction run generalizing c with
    | nil => exact List.isChain_singleton c
    | cons d run ih =>
        rcases List.forall_mem_cons.mp hall with ⟨hd, hrest⟩
        exact List.isChain_cons_cons.mpr ⟨Or.inl hd, ih d hrest⟩
  apply List.isChain_append.mpr
  refine ⟨?_, ?_, ?_⟩
  · exact (List.isChain_cons.mp (hrun ' ' digits.whole h.whole)).2
  · cases hfraction : digits.fraction with
    | nil => exact List.isChain_nil
    | cons d rest => exact hrun '.' (d :: rest) (hfraction ▸ h.fraction)
  · intro c hc d hd
    cases hfraction : digits.fraction with
    | nil =>
        rw [hfraction] at hd
        cases hd
    | cons e rest =>
        rw [hfraction] at hd
        exact Or.inr ⟨h.whole c (List.mem_of_getLast? hc), (Option.some.inj hd).symm⟩

theorem reaches
    {front back : List Char} (hsplit : digits.text = front ++ back) (hfront : front ≠ [])
    (hback : back ≠ []) (before after : List Char) :
    numberReaches (before ++ front) (back ++ after) = true := by
  rcases List.eq_nil_or_concat front with hnil | ⟨left, c, hconcat⟩
  · exact absurd hnil hfront
  rcases List.exists_cons_of_ne_nil hback with ⟨d, right, hcons⟩
  have htext : digits.text = left ++ c :: d :: right := by rw [hsplit, hconcat, hcons]; simp
  have hchain := h.chain
  rw [htext, List.isChain_append_cons_cons] at hchain
  have hlast : (before ++ front).getLast? = some c := by
    rw [hconcat, List.concat_eq_append, ← List.append_assoc, List.getLast?_concat]
  have hnumber := h.isNumberChar (htext ▸ List.mem_append_right _ List.mem_cons_self)
  unfold numberReaches blocksNumeral
  rw [hlast, hcons]
  rcases hchain.2.1 with hd | ⟨hc, hd⟩
  · have hblocks : (isWordChar c || c == '.') = true := by
      rcases (Bool.or_eq_true _ _).mp hnumber with hdigit | hpoint
      · rw [isWordChar_of_isDigit hdigit, Bool.true_or]
      · rw [hpoint, Bool.or_true]
    simp [hd, hblocks]
  · cases right with
    | nil =>
        rcases h.text_last with ⟨init, last, hend, hdigit⟩
        rw [htext, hd] at hend
        have hpoint := congrArg List.getLast? hend
        rw [List.getLast?_append_cons, List.getLast?_concat] at hpoint
        rw [← Option.some.inj hpoint] at hdigit
        cases hdigit
    | cons e right =>
        have he : isDigit e = true := by
          rcases (List.isChain_cons_cons.mp hchain.2.2).1 with he | ⟨hpoint, _⟩
          · exact he
          · rw [hd] at hpoint
            cases hpoint
        rw [hd]
        simp [hc, continuesNumber, he]

end Pattern.Digits.IsNumeral

/-!
## Taking a text apart
-/

theorem continuesNumber_append
    {front back : List Char} (h : continuesNumber front = false) (hfront : front ≠ [])
    (hpoint : front = ['.'] -> back.head?.any isDigit = false) :
    continuesNumber (front ++ back) = false := by
  rw [continuesNumber_eq_false] at h ⊢
  cases front with
  | nil => exact absurd rfl hfront
  | cons c rest =>
      refine ⟨h.1, ?_⟩
      intro d others heq
      rcases List.cons.inj heq with ⟨hc, htail⟩
      cases rest with
      | nil =>
          have hback : back = d :: others := htail
          have hhead := hpoint (by rw [hc])
          rw [hback] at hhead
          exact hhead
      | cons e rest =>
          rw [(List.cons.inj htail).1] at h
          exact h.2 d rest (by rw [hc])

theorem continuesNumber_left
    {front back : List Char} (h : continuesNumber (front ++ back) = false) :
    continuesNumber front = false := by
  rw [continuesNumber_eq_false] at h ⊢
  constructor
  · intro c hc
    exact h.1 c (by rw [List.head?_append, hc, Option.some_or])
  · intro c rest hfront
    exact h.2 c (rest ++ back) (by rw [hfront, List.cons_append, List.cons_append])

theorem blocksNumeral_append
    {front back : List Char} (hback : back ≠ []) :
    blocksNumeral (front ++ back) = blocksNumeral back := by
  unfold blocksNumeral
  rw [List.getLast?_append_of_ne_nil front hback]

theorem numberReaches_eq_false
    {before after : List Char} :
    numberReaches before after = false <->
      (before.getLast?.any isDigit = true -> continuesNumber after = false) ∧
        (after.head?.any isDigit = true -> blocksNumeral before = false) := by
  unfold numberReaches
  rw [Bool.or_eq_false_iff, Bool.and_eq_false_imp, Bool.and_eq_false_imp]

section Append

variable {front back : List Char} {digits : Digits} (h : numberReaches front back = false)

include h

theorem HasNumeral.of_append (hnumeral : HasNumeral (front ++ back) digits) :
    HasNumeral front digits ∨ HasNumeral back digits := by
  simp only [hasNumeral_iff] at hnumeral ⊢
  rcases hnumeral with ⟨hdigits, before, after, hsplit, hfresh, hends⟩
  rcases List.append_eq_append_iff.mp hsplit with ⟨rest, hbefore, hback⟩ | ⟨rest, hfront, hrest⟩
  · right
    refine ⟨hdigits, rest, after, hback, ?_, hends⟩
    by_cases hnil : rest = []
    · rw [hnil]
      rfl
    · rw [hbefore, blocksNumeral_append hnil] at hfresh
      exact hfresh
  · rcases List.append_eq_append_iff.mp hrest with ⟨tail, htail, hafter⟩ | ⟨tail, htext, hback⟩
    · left
      refine ⟨hdigits, before, tail, by rw [hfront, htail], hfresh, ?_⟩
      rw [hafter] at hends
      exact continuesNumber_left hends
    · by_cases hrestNil : rest = []
      · right
        refine ⟨hdigits, [], after, ?_, rfl, hends⟩
        rw [hback, htext, hrestNil]
        rfl
      · by_cases htailNil : tail = []
        · left
          refine ⟨hdigits, before, [], ?_, hfresh, rfl⟩
          rw [hfront, htext, htailNil, List.append_nil, List.append_nil]
        · rw [hfront, hback, hdigits.reaches htext hrestNil htailNil] at h
          cases h

theorem HasNumeral.append_right (hnumeral : HasNumeral front digits) :
    HasNumeral (front ++ back) digits := by
  rw [hasNumeral_iff] at hnumeral ⊢
  rcases hnumeral with ⟨hdigits, before, after, hsplit, hfresh, hends⟩
  rcases numberReaches_eq_false.mp h with ⟨hdigit, hpoint⟩
  refine ⟨hdigits, before, after ++ back, by rw [hsplit]; simp, hfresh, ?_⟩
  by_cases hnil : after = []
  · rcases hdigits.text_last with ⟨init, c, htext, hc⟩
    rw [hnil, List.nil_append]
    apply hdigit
    rw [hsplit, hnil, htext, List.append_nil, ← List.append_assoc, List.getLast?_concat]
    exact hc
  · apply continuesNumber_append hends hnil
    intro hlast
    rw [Bool.eq_false_iff]
    intro hhead
    have hblocks := hpoint hhead
    rw [hsplit, hlast, ← List.append_assoc, blocksNumeral_append (List.cons_ne_nil _ _)] at hblocks
    cases hblocks

theorem HasNumeral.append_left (hnumeral : HasNumeral back digits) :
    HasNumeral (front ++ back) digits := by
  rw [hasNumeral_iff] at hnumeral ⊢
  rcases hnumeral with ⟨hdigits, before, after, hsplit, hfresh, hends⟩
  refine ⟨hdigits, front ++ before, after, by rw [hsplit, List.append_assoc], ?_, hends⟩
  by_cases hnil : before = []
  · rcases hdigits.text_head with ⟨c, rest, htext, hc⟩
    rw [hnil, List.append_nil]
    apply (numberReaches_eq_false.mp h).2
    rw [hsplit, hnil, htext]
    exact hc
  · rw [blocksNumeral_append hnil]
    exact hfresh

/-- The numerals of a text are those of its parts, where no number reaches from one to the other. -/
theorem hasNumeral_append_iff :
    HasNumeral (front ++ back) digits <-> HasNumeral front digits ∨ HasNumeral back digits :=
  ⟨HasNumeral.of_append h, fun hparts =>
    hparts.elim (HasNumeral.append_right h) (HasNumeral.append_left h)⟩

end Append

/-!
## Words
-/

theorem not_hasNumeral_nil (digits : Digits) :
    ¬ HasNumeral [] digits := by
  rw [hasNumeral_iff]
  rintro ⟨hdigits, before, after, hsplit, _⟩
  have htext := (List.append_eq_nil_iff.mp (List.append_eq_nil_iff.mp hsplit.symm).2).1
  exact hdigits.text_ne_nil htext

theorem not_numberReaches_blank
    {blank : Char} (h : isBlank blank = true) (front back : List Char) :
    numberReaches front (blank :: back) = false ∧
      numberReaches (front ++ [blank]) back = false := by
  have hdigit : isDigit blank = false := not_isDigit_of_isBlank blank h
  have hpoint : blank ≠ '.' := by
    rintro rfl
    cases h
  constructor
  · rw [numberReaches_eq_false]
    constructor
    · intro _
      rw [continuesNumber_eq_false]
      refine ⟨fun c hc => Option.some.inj hc ▸ not_isWordChar_of_isBlank h, ?_⟩
      intro c rest heq
      exact absurd (List.cons.inj heq).1 hpoint
    · intro hhead
      rw [List.head?_cons, Option.any_some, hdigit] at hhead
      cases hhead
  · rw [numberReaches_eq_false, List.getLast?_concat, Option.any_some, hdigit,
      blocksNumeral_append (List.cons_ne_nil _ _)]
    refine ⟨nofun, fun _ => ?_⟩
    simp [blocksNumeral, not_isWordChar_of_isBlank h, hpoint]

theorem wordByWord_hasNumeral (digits : Digits) :
    WordByWord fun text => HasNumeral text digits := by
  constructor
  · exact not_hasNumeral_nil digits
  · intro blank front back hblank
    have hblankNone : ¬ HasNumeral [blank] digits := by
      rw [hasNumeral_iff]
      rintro ⟨hdigits, before, after, hsplit, _⟩
      rcases hdigits.text_head with ⟨c, rest, htext, hc⟩
      have hmem : c ∈ [blank] := by
        rw [hsplit, htext]
        exact List.mem_append_right _ List.mem_cons_self
      rw [List.mem_singleton.mp hmem, not_isDigit_of_isBlank blank hblank] at hc
      cases hc
    have hsplit : front ++ blank :: back = front ++ [blank] ++ back := by simp
    rw [hsplit, hasNumeral_append_iff (not_numberReaches_blank hblank front back).2,
      hasNumeral_append_iff (not_numberReaches_blank hblank front []).1, or_iff_left hblankNone]

/-!
## Lower case
-/

/-- A digit stands right behind a dotted capital I, which loses touch with it in lower case. -/
def DottedBeforeDigit (text : List Char) : Prop :=
  exists c : Char, isDigit c = true ∧ [dottedI, c] <:+: text

theorem wordByWord_dottedBeforeDigit : WordByWord DottedBeforeDigit := by
  have hword : forall c : Char, isDigit c = true ->
      WordByWord fun text => [dottedI, c] <:+: text := by
    intro c hc
    apply wordByWord_infix (List.cons_ne_nil _ _)
    rw [List.forall_mem_cons, List.forall_mem_singleton]
    exact ⟨by decide, not_isBlank_of_isDigit hc⟩
  constructor
  · rintro ⟨c, hc, hwithin⟩
    exact (hword c hc).nil hwithin
  · intro blank front back hblank
    constructor
    · rintro ⟨c, hc, hwithin⟩
      exact (((hword c hc).blank front back hblank).mp hwithin).imp (⟨c, hc, ·⟩) (⟨c, hc, ·⟩)
    · rintro (⟨c, hc, hwithin⟩ | ⟨c, hc, hwithin⟩)
      · exact ⟨c, hc, ((hword c hc).blank front back hblank).mpr (Or.inl hwithin)⟩
      · exact ⟨c, hc, ((hword c hc).blank front back hblank).mpr (Or.inr hwithin)⟩

theorem blocksNumeral_of_lowered
    {text before : List Char} (h : Lowered text before) (hfresh : blocksNumeral before = false)
    (hdotted : forall c : Char, text.getLast? = some c -> c ≠ dottedI) :
    blocksNumeral text = false := by
  rw [blocksNumeral_eq_false] at hfresh ⊢
  intro c hc
  rcases h.last hc (hdotted c hc) with ⟨d, hd, hword, hnumber⟩
  rcases hfresh d hd with ⟨hdword, hdpoint⟩
  constructor
  · rw [Bool.eq_false_iff]
    intro hcword
    rw [hword hcword] at hdword
    cases hdword
  · intro hpoint
    apply hdpoint
    rw [hnumber (by rw [hpoint]; rfl), hpoint]

theorem continuesNumber_of_lowered
    {text after : List Char} (h : Lowered text after) (hends : continuesNumber after = false) :
    continuesNumber text = false := by
  rw [continuesNumber_eq_false] at hends ⊢
  constructor
  · intro c hc
    rcases h.head hc with ⟨d, hd, hword, _⟩
    rw [Bool.eq_false_iff]
    intro hcword
    have hdword := hends.1 d hd
    rw [hword hcword] at hdword
    cases hdword
  · intro c rest htext
    rw [htext] at h
    cases h with
    | one _ hnumber hrest =>
        rw [Bool.eq_false_iff]
        intro hdigit
        have hnumberC : isNumberChar c = true := by rw [isNumberChar, hdigit, Bool.true_or]
        cases hrest with
        | one _ hcnumber _ =>
            have hdecimal := hends.2 c _
              (by rw [hnumber (Or.inl rfl), hcnumber (Or.inl hnumberC)])
            rw [hdigit] at hdecimal
            cases hdecimal
        | dotted _ => exact absurd hdigit (by decide)

theorem HasNumeral.of_lower
    {text : List Char} {digits : Digits} (h : HasNumeral (lower text) digits)
    (hdotted : ¬ DottedBeforeDigit text) :
    HasNumeral text digits := by
  rw [hasNumeral_iff] at h ⊢
  rcases h with ⟨hdigits, before, after, hsplit, hfresh, hends⟩
  rcases hdigits.text_head with ⟨c, rest, htext, hc⟩
  have hlowered := lowered_lower text
  rw [hsplit, htext, List.cons_append] at hlowered
  have hnumber : forall d : Char, d ∈ c :: rest -> isNumberChar d = true :=
    fun d hd => hdigits.isNumberChar (htext ▸ hd)
  rcases hlowered.split (hnumber c List.mem_cons_self) with ⟨left, right, hleft, hbefore, hright⟩
  rcases hright.split_run fun d hd => hnumber d (List.mem_cons_of_mem c hd) with
    ⟨back, hback, hafter⟩
  refine ⟨hdigits, left, back, ?_, blocksNumeral_of_lowered hbefore hfresh ?_,
    continuesNumber_of_lowered hafter hends⟩
  · rw [hleft, hback, htext, List.cons_append]
  · rintro d hd rfl
    apply hdotted
    rcases List.getLast?_eq_some_iff.mp hd with ⟨init, hinit⟩
    exact ⟨c, hc, init, right, by rw [hleft, hinit]; simp⟩

end CatalogSearch
