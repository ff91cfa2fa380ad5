import CatalogSearch.Proofs.Query.Expressions
import CatalogSearch.Proofs.Query.Findings

/-!
# Findings of the price forms

The pattern of each price form fits exactly where the grammar has the form, and with the same
condition.  A pattern has one reading at a place, so that every production read in several ways
has to be led back to the longest white space and the longest numeral.
-/

namespace CatalogSearch

open Text

namespace Pattern

variable {α : Type}

/-!
## Numerals
-/

theorem continuesNumber_eq_false
    {text : List Char} :
    continuesNumber text = false <->
      (forall c : Char, text.head? = some c -> isWordChar c = false) ∧
        forall (c : Char) (rest : List Char), text = '.' :: c :: rest -> isDigit c = false := by
  have hpoint : isWordChar '.' = false := by decide
  unfold continuesNumber
  split
  · rename_i c rest
    constructor
    · intro h
      refine ⟨fun d hhead => Option.some.inj hhead ▸ hpoint, ?_⟩
      intro d rest' heq
      injection heq with _ htail
      injection htail with hc _
      exact hc ▸ h
    · intro h
      exact h.2 c rest rfl
  · rename_i c rest hother
    constructor
    · intro h
      refine ⟨fun d hhead => Option.some.inj hhead ▸ h, ?_⟩
      intro d rest' heq
      injection heq with hc htail
      exact absurd htail (hother d rest' hc)
    · intro h
      exact h.1 c rfl
  · exact ⟨fun _ => ⟨fun _ h => (Option.some_ne_none _ h.symm).elim, fun _ _ h => by cases h⟩,
      fun _ => rfl⟩

theorem finds_check
    {pattern : Pattern Unit} (refuses : Option Char -> List Char -> Bool) {first last : Place}
    {value : Unit} (h : forall (prev : Option Char) (text : List Char),
      pattern prev text = if refuses prev text then none else some ⟨(), [], text⟩) :
    Finds pattern first value last <->
      last = first ∧ refuses first.before.getLast? first.rest = false := by
  unfold Finds
  rw [h]
  cases refuses first.before.getLast? first.rest with
  | true =>
      rw [if_pos rfl]
      constructor
      · intro hfinds
        rcases hfinds with ⟨_, _, hhit⟩
        cases hhit
      · intro hrefuses
        cases hrefuses.2
  | false =>
      rw [if_neg Bool.false_ne_true]
      constructor
      · intro hfinds
        rcases hfinds with ⟨part, hbefore, hhit⟩
        injection Option.some.inj hhit with _ hpart hrest
        rw [← hpart] at hbefore
        exact ⟨Place.Reads.nil_iff.mp ⟨hbefore, hrest⟩, rfl⟩
      · intro hplace
        rw [hplace.1]
        exact ⟨[], (List.append_nil _).symm, rfl⟩

theorem finds_freshPlace
    {first last : Place} {value : Unit} :
    Finds freshPlace first value last <->
      last = first ∧ forall c : Char, first.before.getLast? = some c ->
        isWordChar c = false ∧ c ≠ '.' := by
  have hcheck : Finds freshPlace first value last <-> last = first ∧
      first.before.getLast?.any (fun c => isWordChar c || c == '.') = false :=
    finds_check _ fun _ _ => rfl
  rw [hcheck]
  cases first.before.getLast? with
  | none => simp
  | some c => simp

theorem finds_numberEnd
    {first last : Place} {value : Unit} :
    Finds numberEnd first value last <-> last = first ∧ continuesNumber first.rest = false :=
  finds_check _ fun _ _ => rfl

/-- The decimals of a numeral are one digit, with no digit after it, or two. -/
theorem finds_decimals
    {first last : Place} {fraction : List Char} :
    Finds decimals first fraction last <->
      first.Reads ('.' :: fraction) last ∧ (forall c : Char, c ∈ fraction -> isDigit c = true) ∧
        (fraction.length = 1 ∧ (forall c : Char, last.rest.head? = some c -> isDigit c = false) ∨
          fraction.length = 2) := by
  unfold decimals
  simp only [finds_bind, finds_pure]
  constructor
  · intro h
    rcases h with ⟨_, a, hpoint, c, b, hc, second, e, hsecond, hfraction, hlast⟩
    rcases finds_charWhere.mp hc with ⟨hcDigit, hcReads⟩
    have hfront : first.Reads ['.', c] b := (finds_symbol.mp hpoint).2.trans hcReads
    rw [hlast, hfraction]
    rcases finds_perhaps.mp hsecond with ⟨d, hsome, hd⟩ | ⟨hnone, hplace, hends⟩
    · rcases finds_charWhere.mp hd with ⟨hdDigit, hdReads⟩
      rw [hsome]
      refine ⟨hfront.trans hdReads, ?_, Or.inr rfl⟩
      intro x hmem
      rcases List.mem_cons.mp hmem with rfl | hmem
      · exact hcDigit
      · rw [List.mem_singleton.mp hmem]
        exact hdDigit
    · rw [hnone, hplace]
      refine ⟨hfront, ?_, Or.inl ⟨rfl, not_finds_charWhere.mp hends⟩⟩
      intro x hmem
      rw [List.mem_singleton.mp hmem]
      exact hcDigit
  · intro h
    rcases h with ⟨hreads, hdigits, hlength⟩
    have hpoint : first.Reads (['.'] ++ fraction) last := hreads
    rcases hpoint.split with ⟨a, hpoint, hfraction⟩
    refine ⟨'.', a, finds_symbol.mpr ⟨rfl, hpoint⟩, ?_⟩
    rcases hlength with ⟨hone, hends⟩ | htwo
    · rcases List.length_eq_one_iff.mp hone with ⟨c, hc⟩
      rw [hc] at hfraction hdigits
      refine ⟨c, last, finds_charWhere.mpr ⟨hdigits c List.mem_cons_self, hfraction⟩, none, last,
        ?_, hc, rfl⟩
      exact finds_perhaps.mpr (Or.inr ⟨rfl, rfl, not_finds_charWhere.mpr hends⟩)
    · rcases List.length_eq_two.mp htwo with ⟨c, d, hcd⟩
      rw [hcd] at hfraction hdigits
      have hboth : a.Reads ([c] ++ [d]) last := hfraction
      rcases hboth.split with ⟨b, hc, hd⟩
      have hcDigit := hdigits c List.mem_cons_self
      have hdDigit := hdigits d (List.mem_cons_of_mem c List.mem_cons_self)
      refine ⟨c, b, finds_charWhere.mpr ⟨hcDigit, hc⟩, some d, last, ?_, hcd, rfl⟩
      exact finds_perhaps.mpr (Or.inl ⟨d, rfl, finds_charWhere.mpr ⟨hdDigit, hd⟩⟩)

theorem finds_perhaps_decimals
    {first last : Place} {fraction : List Char} (hreads : first.Reads (Place.pointed fraction) last)
    (hdigits : forall c : Char, c ∈ fraction -> isDigit c = true) (hlength : fraction.length ≤ 2)
    (hends : forall c : Char, last.rest.head? = some c -> isDigit c = false)
    (hpoint : forall (c : Char) (rest : List Char), last.rest = '.' :: c :: rest ->
      isDigit c = false) :
    (forall c : Char, first.rest.head? = some c -> isDigit c = false) ∧
      exists value : Option (List Char), fraction = value.getD [] ∧
        Finds (perhaps decimals) first value last := by
  cases fraction with
  | nil =>
      rw [Place.pointed, Place.Reads.nil_iff] at hreads
      rw [hreads] at hends hpoint ⊢
      refine ⟨hends, none, rfl, finds_perhaps.mpr (Or.inr ⟨rfl, rfl, ?_⟩)⟩
      intro list other hdecimals
      rcases finds_decimals.mp hdecimals with ⟨hlist, hlistDigits, hlistLength⟩
      cases list with
      | nil => simp at hlistLength
      | cons c list =>
          have hc := hlistDigits c List.mem_cons_self
          rw [hpoint c _ hlist.rest] at hc
          cases hc
  | cons d fraction =>
      refine ⟨?_, some (d :: fraction), rfl, finds_perhaps.mpr (Or.inl ⟨_, rfl, ?_⟩)⟩
      · intro c hhead
        rw [hreads.rest] at hhead
        rw [← Option.some.inj hhead]
        decide
      · refine finds_decimals.mpr ⟨hreads, hdigits, ?_⟩
        rw [List.length_cons] at hlength ⊢
        rcases Nat.eq_zero_or_pos fraction.length with hzero | hpos
        · exact Or.inl ⟨by rw [hzero], hends⟩
        · exact Or.inr (by omega)

theorem readsNumeral_of_finds
    {first last : Place} {digits : Digits} (h : Finds freeNumeral first digits last) :
    first.ReadsNumeral digits last := by
  unfold freeNumeral numeral at h
  simp only [finds_bind, finds_pure, finds_freshPlace, finds_numberEnd,
    continuesNumber_eq_false] at h
  rcases h with ⟨_, a, ⟨ha, hfresh⟩, d, b, ⟨whole, c, hwhole, fraction, e, hfraction, hd, hb⟩,
    _, f, ⟨hf, hword, hpoint⟩, hdigits, hlast⟩
  rw [ha] at hwhole
  rw [hb] at hf hword hpoint
  rw [hlast, hf, hdigits, hd]
  rcases finds_someWhere.mp hwhole with ⟨hreads, hne, hall, _⟩
  rcases finds_perhaps.mp hfraction with ⟨list, hlist, hdecimals⟩ | ⟨hnone, hplace, _⟩
  · rcases finds_decimals.mp hdecimals with ⟨hreads', hall', hlength⟩
    have hshort : list.length ≤ 2 := by omega
    rw [hlist]
    cases list with
    | nil => simp at hlength
    | cons x list =>
        exact ⟨hreads.trans hreads', hne, hall, hall', hshort, hfresh, hword, hpoint⟩
  · rw [hplace] at hword hpoint ⊢
    rw [hnone]
    have hwholeReads : first.Reads (whole ++ []) c := by
      rw [List.append_nil]
      exact hreads
    exact ⟨hwholeReads, hne, hall, fun _ hmem => absurd hmem List.not_mem_nil, Nat.zero_le 2,
      hfresh, hword, hpoint⟩

theorem finds_of_readsNumeral
    {first last : Place} {digits : Digits} (h : first.ReadsNumeral digits last) :
    Finds freeNumeral first digits last := by
  have hends : forall c : Char, last.rest.head? = some c -> isDigit c = false := by
    intro c hhead
    cases hc : isDigit c with
    | false => rfl
    | true =>
        have hword := h.no_word c hhead
        rw [isWordChar_of_isDigit hc] at hword
        cases hword
  rcases h.reads.split with ⟨middle, hwhole, hpointed⟩
  rcases finds_perhaps_decimals hpointed h.fraction h.fraction_length hends h.no_decimals with
    ⟨hmiddle, fraction, hfraction, hdecimals⟩
  have hrun : Finds (someWhere isDigit) first digits.whole middle :=
    finds_someWhere.mpr ⟨hwhole, h.whole_ne_nil, h.whole, hmiddle⟩
  have hdigits : digits = ⟨digits.whole, fraction.getD []⟩ := by
    rw [← hfraction]
  unfold freeNumeral numeral
  simp only [finds_bind, finds_pure, finds_freshPlace, finds_numberEnd, continuesNumber_eq_false]
  exact ⟨(), first, ⟨rfl, h.fresh⟩, digits, last,
    ⟨digits.whole, middle, hrun, fraction, last, hdecimals, hdigits, rfl⟩, (), last,
    ⟨rfl, h.no_word, h.no_decimals⟩, rfl, rfl⟩

/-- A numeral fits exactly where the grammar has one: what ends it ends its digits, too. -/
theorem finds_freeNumeral
    {first last : Place} {digits : Digits} :
    Finds freeNumeral first digits last <-> first.ReadsNumeral digits last :=
  ⟨readsNumeral_of_finds, finds_of_readsNumeral⟩

/-!
## Signs
-/

theorem opens_symbol (symbol : Char) :
    Opens (fun c => c = symbol) (charWhere (· == symbol)) := by
  intro first last value h
  exact (finds_symbol.mp h).2.next rfl

theorem ne_of_class
    {class? : Char -> Bool} {c symbol : Char} (hc : class? c = true)
    (hsymbol : class? symbol = false) :
    c ≠ symbol := by
  intro heq
  rw [heq, hsymbol] at hc
  cases hc

theorem opens_freeNumeral :
    Opens (fun c => isDigit c = true) freeNumeral := by
  intro first last digits h
  have hnumeral := finds_freeNumeral.mp h
  exact hnumeral.reads.next_run hnumeral.whole_ne_nil hnumeral.whole

theorem finds_perhapsDollar
    {first last : Place} {value : Unit} :
    Finds perhapsDollar first value last <->
      exists found : Option Char, Finds (perhaps (charWhere (· == '$'))) first found last := by
  unfold perhapsDollar
  simp only [finds_bind, finds_pure]
  constructor
  · intro h
    rcases h with ⟨found, middle, hfound, _, hlast⟩
    rw [hlast]
    exact ⟨found, hfound⟩
  · intro h
    rcases h with ⟨found, hfound⟩
    exact ⟨found, last, hfound, trivial, rfl⟩

theorem between_dollar
    {first last : Place} :
    (exists found : Option Char, Between (charWhere (· == '$')) first found last) <->
      first.ReadsDollar last := by
  constructor
  · intro h
    rcases h with ⟨found, hfound⟩
    cases found with
    | none => exact Or.inl hfound
    | some c => exact Or.inr (finds_symbol.mp hfound).2
  · intro h
    rcases h with hnone | hdollar
    · exact ⟨none, hnone⟩
    · exact ⟨some '$', finds_symbol.mpr ⟨rfl, hdollar⟩⟩

theorem finds_gap
    {next : Pattern α} (hnext : Opens (fun c => isBlank c = false ∧ ¬ c = '$') next)
    {first last : Place} {value : α} :
    (exists (blank : Unit) (a : Place), Finds blanks first blank a ∧
        exists (dollar : Unit) (b : Place), Finds perhapsDollar a dollar b ∧
          exists (blank' : Unit) (c : Place), Finds blanks b blank' c ∧ Finds next c value last) <->
      exists middle : Place, first.ReadsGap middle ∧ Finds next middle value last := by
  have haround := fun found => @finds_around Char α _ next _ (opens_symbol '$')
    (by rintro _ rfl; decide) hnext first last found value
  constructor
  · intro h
    rcases h with ⟨_, a, ha, _, b, hb, hlast⟩
    rcases finds_perhapsDollar.mp hb with ⟨found, hfound⟩
    rcases (haround found).mp ⟨(), a, ha, b, hfound, hlast⟩ with ⟨a', b', c, ha', hb', hc, hnext⟩
    exact ⟨c, .intro ha' (between_dollar.mp ⟨found, hb'⟩) hc, hnext⟩
  · intro h
    rcases h with ⟨c, ⟨ha, hb, hc⟩, hlast⟩
    rcases between_dollar.mpr hb with ⟨found, hfound⟩
    rcases (haround found).mpr ⟨_, _, c, ha, hfound, hc, hlast⟩ with ⟨_, a, ha', b, hb', hnext⟩
    exact ⟨(), a, ha', (), b, finds_perhapsDollar.mpr ⟨found, hb'⟩, hnext⟩

theorem finds_dollar
    {next : Pattern α} (hnext : Opens (fun c => ¬ c = '$') next) {first last : Place} {value : α} :
    Finds (perhapsDollar >>= fun _ => next) first value last <->
      exists middle : Place, first.ReadsDollar middle ∧ Finds next middle value last := by
  simp only [finds_bind, finds_perhapsDollar]
  constructor
  · intro h
    rcases h with ⟨_, middle, ⟨found, hfound⟩, hlast⟩
    exact ⟨middle, between_dollar.mp ⟨found, between_of_finds hfound⟩, hlast⟩
  · intro h
    rcases h with ⟨middle, hplace | hdollar, hlast⟩
    · have hother := hnext hlast
      rw [hplace] at hother hlast
      exact ⟨(), first, ⟨none, finds_perhaps_none (opens_symbol '$') hother⟩, hlast⟩
    · have hsome := finds_symbol.mpr ⟨rfl, hdollar⟩
      exact ⟨(), middle, ⟨some '$', finds_perhaps.mpr (Or.inl ⟨'$', rfl, hsome⟩)⟩, hlast⟩

def freeAmount : Pattern Digits := do
  perhapsDollar
  freeNumeral

theorem finds_freeAmount
    {first last : Place} {digits : Digits} :
    Finds freeAmount first digits last <->
      exists middle : Place, first.ReadsDollar middle ∧ middle.ReadsNumeral digits last := by
  have hopens : Opens (fun c => ¬ c = '$') freeNumeral := fun h =>
    (opens_freeNumeral h).mono fun _ hc => ne_of_class hc (by decide)
  unfold freeAmount
  rw [finds_dollar hopens]
  simp only [finds_freeNumeral]

theorem opens_freeAmount :
    Opens (fun c => c = '$' ∨ isDigit c = true) freeAmount := by
  intro first last digits h
  rcases finds_freeAmount.mp h with ⟨middle, hplace | hdollar, hnumeral⟩
  · have hdigit := opens_freeNumeral (finds_freeNumeral.mpr hnumeral)
    rw [hplace] at hdigit
    exact hdigit.mono fun _ hc => Or.inr hc
  · exact hdollar.next (Or.inl rfl)

theorem opens_freeAmount_solid :
    Opens (fun c => isBlank c = false ∧ ¬ (c = '<' ∨ c = '>' ∨ c = '=')) freeAmount := by
  intro first last digits h
  apply (opens_freeAmount h).mono
  rintro c (rfl | hc)
  · decide
  · refine ⟨not_isBlank_of_isDigit hc, ?_⟩
    rintro (hless | hgreater | hequal)
    · exact ne_of_class hc (by decide) hless
    · exact ne_of_class hc (by decide) hgreater
    · exact ne_of_class hc (by decide) hequal

/-!
## Comparison signs
-/

theorem comparisonSign_of_next
    {op : Comparison} {prev : Option Char} {c : Char} {rest : List Char} (h : c ≠ '=') :
    comparisonSign prev (op.sign ++ c :: rest) = some ⟨op, op.sign, c :: rest⟩ := by
  have hother : sameLetter '=' c = false := by
    cases hsame : sameLetter '=' c with
    | false => rfl
    | true => exact absurd (sameLetter_symbol rfl hsame) h
  cases op with
  | equal => rfl
  | atMost => rfl
  | atLeast => rfl
  | less =>
      have hsame : sameLetter '<' '<' = true := rfl
      have hgreater : sameLetter '>' '<' = false := rfl
      simp [comparisonSign, Comparison.sign, anyOf, orElse, word, letters, bind, followedBy,
        charWhere, pure, succeed, hother, hsame, hgreater]
  | greater =>
      have hsame : sameLetter '>' '>' = true := rfl
      have hless : sameLetter '<' '>' = false := rfl
      simp [comparisonSign, Comparison.sign, anyOf, orElse, word, letters, bind, followedBy,
        charWhere, pure, succeed, hother, hsame, hless]

theorem finds_comparisonSign_of_next
    {op : Comparison} {first last : Place} (h : first.Reads op.sign last)
    (hnext : last.Next fun c => c ≠ '=') :
    Finds comparisonSign first op last := by
  rcases hnext with ⟨c, rest, hrest, hc⟩
  refine ⟨op.sign, h.before, ?_⟩
  rw [h.rest, hrest]
  exact comparisonSign_of_next hc

theorem reads_of_finds_sign
    {text : String} {op op' : Comparison} {first last : Place}
    (hsymbols : (text.toList.all fun letter => !letter.isLower) = true)
    (htext : text.toList = op.sign)
    (h : Finds (do word text; pure op) first op' last) :
    first.Reads op'.sign last := by
  rcases finds_bind.mp h with ⟨_, middle, hword, hpure⟩
  rcases finds_pure.mp hpure with ⟨hop, hlast⟩
  rcases finds_letters.mp hword with ⟨part, hreads, hsame⟩
  have hpart : forall {list part : List Char},
      List.Forall₂ (fun letter c => sameLetter letter c = true) list part ->
      (list.all fun letter => !letter.isLower) = true -> part = list := by
    intro list part hsame
    induction hsame with
    | nil => exact fun _ => rfl
    | @cons letter c list part hc _ ih =>
        intro hall
        rw [List.all_cons, Bool.and_eq_true, Bool.not_eq_true'] at hall
        rw [sameLetter_symbol hall.1 hc, ih hall.2]
  rw [hlast, hop, ← htext, ← hpart hsame hsymbols]
  exact hreads

theorem reads_of_finds_comparisonSign
    {op : Comparison} {first last : Place} (h : Finds comparisonSign first op last) :
    first.Reads op.sign last := by
  rcases exists_finds_of_anyOf h with ⟨pattern, hmem, hfinds⟩
  simp only [List.mem_cons, List.not_mem_nil, or_false] at hmem
  rcases hmem with rfl | rfl | rfl | rfl | rfl
  · exact reads_of_finds_sign (by decide) rfl hfinds
  · exact reads_of_finds_sign (by decide) rfl hfinds
  · exact reads_of_finds_sign (by decide) rfl hfinds
  · exact reads_of_finds_sign (by decide) rfl hfinds
  · exact reads_of_finds_sign (by decide) rfl hfinds

theorem opens_comparisonSign :
    Opens (fun c => c = '<' ∨ c = '>' ∨ c = '=') comparisonSign := by
  intro first last op h
  have hreads := reads_of_finds_comparisonSign h
  cases op with
  | equal => exact hreads.next (Or.inr (Or.inr rfl))
  | less => exact hreads.next (Or.inl rfl)
  | greater => exact hreads.next (Or.inr (Or.inl rfl))
  | atMost => exact hreads.next (Or.inl rfl)
  | atLeast => exact hreads.next (Or.inr (Or.inl rfl))

/-!
## Marked prices
-/

theorem finds_marked
    {first last : Place} {sign : Option Comparison} {low : Digits} :
    (exists (mark : Unit) (a : Place), Finds (word "price:") first mark a ∧
        exists (blank : Unit) (b : Place), Finds blanks a blank b ∧
          exists c : Place, Finds (perhaps comparisonSign) b sign c ∧
            exists (blank' : Unit) (d : Place), Finds blanks c blank' d ∧
              Finds freeAmount d low last) <->
      first.ReadsMarked sign low last := by
  have hmarks : forall c : Char, c = '<' ∨ c = '>' ∨ c = '=' -> isBlank c = false := by
    rintro c (rfl | rfl | rfl)
    all_goals decide
  constructor
  · intro h
    rcases h with ⟨_, a, ha, hrest⟩
    rcases hrest with ⟨_, b, hb, c, hc, hrest⟩
    rcases (finds_around opens_comparisonSign hmarks opens_freeAmount_solid).mp
        ⟨(), b, hb, c, hc, hrest⟩ with
      ⟨b', c', d, hb', hc', hd, hamount⟩
    rcases finds_freeAmount.mp hamount with ⟨e, he, hlow⟩
    refine .intro (finds_letters.mp ha) hb' ?_ hd he hlow
    cases sign with
    | none => exact hc'
    | some op => exact reads_of_finds_comparisonSign hc'
  · intro h
    cases h with
    | @intro a b c d e ha hb hc hd he hlow =>
        have hamount : Finds freeAmount d low last := finds_freeAmount.mpr ⟨e, he, hlow⟩
        have hother : c.Next fun next => next ≠ '=' :=
          Place.Next.before_blanks
            ((opens_freeAmount_solid hamount).mono fun _ h hequal => h.2 (Or.inr (Or.inr hequal)))
            hd fun _ hblank => ne_of_class hblank (by decide)
        have hsign : Between comparisonSign b sign c := by
          cases sign with
          | none => exact hc
          | some op => exact finds_comparisonSign_of_next hc hother
        exact ⟨(), a, finds_letters.mpr ha,
          (finds_around opens_comparisonSign hmarks opens_freeAmount_solid).mpr
            ⟨b, c, d, hb, hsign, hd, hamount⟩⟩

theorem opens_rangeEnd :
    Opens (fun c => c = '-') rangeEnd := by
  intro first last high h
  rcases finds_bind.mp h with ⟨_, middle, hhyphen, _⟩
  exact (finds_symbol.mp hhyphen).2.next rfl

theorem finds_second
    {first last : Place} {high : Digits} :
    (exists (blank : Unit) (a : Place), Finds blanks first blank a ∧ Finds rangeEnd a high last) <->
      first.ReadsSecond high last := by
  have hsolid : Opens (fun c => isBlank c = false) rangeEnd := by
    intro first last high h
    apply (opens_rangeEnd h).mono
    rintro _ rfl
    decide
  have hamount : Opens (fun c => isBlank c = false) freeAmount := by
    intro first last high h
    exact (opens_freeAmount_solid h).mono fun _ h => h.1
  have hrangeEnd : forall a : Place, Finds rangeEnd a high last <->
      exists b : Place, a.Reads ['-'] b ∧ exists c : Place, b.ReadsBlanks c ∧
        Finds freeAmount c high last := by
    intro a
    have hbind : Finds rangeEnd a high last <-> Finds (do
        let _ ← charWhere (· == '-')
        blanks
        freeAmount) a high last := Iff.rfl
    simp only [hbind, finds_bind, finds_blanks_next hamount]
    constructor
    · intro h
      rcases h with ⟨_, b, hb, hrest⟩
      exact ⟨b, (finds_symbol.mp hb).2, hrest⟩
    · intro h
      rcases h with ⟨b, hb, hrest⟩
      exact ⟨'-', b, finds_symbol.mpr ⟨rfl, hb⟩, hrest⟩
  rw [finds_blanks_next hsolid]
  constructor
  · intro h
    rcases h with ⟨a, ha, hend⟩
    rcases (hrangeEnd a).mp hend with ⟨b, hb, c, hc, hhigh⟩
    rcases finds_freeAmount.mp hhigh with ⟨d, hd, hnumeral⟩
    exact .intro ha hb hc hd hnumeral
  · intro h
    rcases h with ⟨ha, hb, hc, hd, hnumeral⟩
    exact ⟨_, ha, (hrangeEnd _).mpr ⟨_, hb, _, hc, finds_freeAmount.mpr ⟨_, hd, hnumeral⟩⟩⟩

theorem finds_priceExpression_range
    {first middle last : Place} {sign : Option Comparison} {low high : Digits}
    (hmarked : first.ReadsMarked sign low middle) (hsecond : middle.ReadsSecond high last) :
    Finds priceExpression first (.between low.value high.value) last := by
  unfold priceExpression
  simp only [finds_bind]
  rcases finds_marked.mpr hmarked with ⟨_, c, hc, _, d, hd, e, he, _, f, hf, hamount⟩
  rcases finds_bind.mp hamount with ⟨_, g, hg, hlow⟩
  rcases finds_second.mpr hsecond with ⟨_, i, hi, hhigh⟩
  exact ⟨(), c, hc, (), d, hd, sign, e, he, (), f, hf, (), g, hg, low, middle, hlow, (), i, hi,
    some high, last, finds_perhaps.mpr (Or.inl ⟨high, rfl, hhigh⟩), finds_pure.mpr ⟨rfl, rfl⟩⟩

theorem finds_priceExpression_comparison
    {first middle last : Place} {sign : Option Comparison} {low : Digits}
    (hmarked : first.ReadsMarked sign low middle)
    (hsingle : forall (high : Digits) (other : Place), ¬ middle.ReadsSecond high other)
    (hblanks : Finds blanks middle () last) :
    Finds priceExpression first (.compare (sign.getD .equal) low.value) last := by
  unfold priceExpression
  simp only [finds_bind]
  rcases finds_marked.mpr hmarked with ⟨_, c, hc, _, d, hd, e, he, _, f, hf, hamount⟩
  rcases finds_bind.mp hamount with ⟨_, g, hg, hlow⟩
  refine ⟨(), c, hc, (), d, hd, sign, e, he, (), f, hf, (), g, hg, low, middle, hlow, (), last,
    hblanks, none, last, finds_perhaps.mpr (Or.inr ⟨rfl, rfl, ?_⟩), finds_pure.mpr ⟨rfl, rfl⟩⟩
  intro high other hhigh
  exact hsingle high other (finds_second.mp ⟨(), last, hblanks, hhigh⟩)

/-- A marked price stands exactly where its pattern fits, with the condition that it finds. -/
theorem markedPrice_iff
    {first : Place} {condition : PricePredicate} :
    first.MarkedPrice condition <->
      exists last : Place, Finds priceExpression first condition last := by
  constructor
  · intro h
    cases h with
    | range hmarked hsecond => exact ⟨_, finds_priceExpression_range hmarked hsecond⟩
    | comparison hmarked hsingle =>
        rcases exists_finds_blanks _ with ⟨last, hblanks⟩
        exact ⟨last, finds_priceExpression_comparison hmarked hsingle hblanks⟩
  · intro h
    unfold priceExpression at h
    simp only [finds_bind] at h
    rcases h with ⟨last, _, c, hc, _, d, hd, sign, e, he, _, f, hf, _, g, hg, low, a, hlow, _, i,
      hi, high, b, hhigh, hcondition⟩
    have hmarked : first.ReadsMarked sign low a :=
      finds_marked.mp
        ⟨(), c, hc, (), d, hd, e, he, (), f, hf, finds_bind.mpr ⟨(), g, hg, hlow⟩⟩
    rcases finds_perhaps.mp hhigh with ⟨high', hsome, hhigh'⟩ | ⟨hnone, _, hsingle⟩
    · rw [hsome] at hcondition
      rw [(finds_pure.mp hcondition).1]
      exact .range hmarked (finds_second.mp ⟨(), i, hi, hhigh'⟩)
    · rw [hnone] at hcondition
      rw [(finds_pure.mp hcondition).1]
      refine .comparison hmarked ?_
      intro high' b' hsecond
      rcases finds_second.mpr hsecond with ⟨_, i', hi', hhigh'⟩
      rw [(hi.unique hi').2] at hhigh'
      exact hsingle high' b' hhigh'

/-!
## Bare comparisons
-/

theorem opens_freeNumeral_solid :
    Opens (fun c => isBlank c = false ∧ ¬ c = '$') freeNumeral := by
  intro first last digits h
  apply (opens_freeNumeral h).mono
  intro c hc
  exact ⟨not_isBlank_of_isDigit hc, ne_of_class hc (by decide)⟩

theorem bareComparison_iff
    {first : Place} {condition : PricePredicate} :
    first.BareComparison condition <->
      exists last : Place, Finds bareComparison first condition last := by
  unfold bareComparison
  simp only [finds_bind, finds_pure]
  constructor
  · intro h
    cases h with
    | @intro op value a b c ha hb hc =>
        have hnumeral := finds_freeNumeral.mpr hc
        rcases (finds_gap opens_freeNumeral_solid).mpr ⟨b, hb, hnumeral⟩ with
          ⟨_, d, hd, _, e, he, _, f, hf, hvalue⟩
        have hother : a.Next fun next => next ≠ '=' :=
          Place.Next.before_gap
            ((opens_freeNumeral hnumeral).mono fun _ hdigit => ne_of_class hdigit (by decide))
            hb (fun _ hblank => ne_of_class hblank (by decide)) (by decide)
        exact ⟨c, op, a, finds_comparisonSign_of_next ha hother, (), d, hd, (), e, he, (), f, hf,
          value, c, hvalue, rfl, rfl⟩
  · intro h
    rcases h with ⟨last, op, a, ha, _, d, hd, _, e, he, _, f, hf, value, c, hvalue, hcondition, _⟩
    rcases (finds_gap opens_freeNumeral_solid).mp ⟨(), d, hd, (), e, he, (), f, hf, hvalue⟩ with
      ⟨b, hb, hnumeral⟩
    rw [hcondition]
    exact .intro (reads_of_finds_comparisonSign ha) hb (finds_freeNumeral.mp hnumeral)

/-!
## Bare ranges

The pattern of a range also covers a dollar sign and white space before the first numeral.
-/

theorem finds_bareRange
    {first : Place} {condition : PricePredicate} (h : first.BareRange condition) :
    exists last : Place, Finds bareRange first condition last := by
  unfold bareRange
  simp only [finds_bind, finds_pure]
  cases h with
  | @intro low high a b c d e hlow hb hc hd hhigh =>
      have hlow' := finds_freeNumeral.mpr hlow
      have hsolid := opens_freeNumeral_solid hlow'
      have hdollar : Finds perhapsDollar first () first :=
        finds_perhapsDollar.mpr
          ⟨none, finds_perhaps_none (opens_symbol '$') (hsolid.mono fun _ h => h.2)⟩
      have hblanks : Finds blanks first () first :=
        finds_blanks_of_next first.readsBlanks_refl (hsolid.mono fun _ h => h.1)
      have hgap : Finds blanks a () b := by
        refine finds_blanks_of_next hb (hc.next ?_)
        decide
      rcases (finds_gap opens_freeNumeral_solid).mpr ⟨d, hd, finds_freeNumeral.mpr hhigh⟩ with
        ⟨_, f, hf, _, g, hg, _, i, hi, hhigh'⟩
      exact ⟨e, (), first, hdollar, (), first, hblanks, low, a, hlow', (), b, hgap, '-', c,
        finds_symbol.mpr ⟨rfl, hc⟩, (), f, hf, (), g, hg, (), i, hi, high, e, hhigh', rfl, rfl⟩

theorem next_of_bareRange
    {first : Place} {condition : PricePredicate} (h : first.BareRange condition) :
    first.Next fun c => isDigit c = true := by
  cases h with
  | intro hlow _ _ _ _ => exact opens_freeNumeral (finds_freeNumeral.mpr hlow)

/-- Where the pattern of a range fits there is a range after at most a dollar sign and blanks. -/
theorem bareRange_of_finds
    {first last : Place} {condition : PricePredicate}
    (h : Finds bareRange first condition last) :
    exists (lead : List Char) (start : Place), first.Reads lead start ∧
      (forall c : Char, c ∈ lead -> isDigit c = false) ∧ start.BareRange condition := by
  unfold bareRange at h
  simp only [finds_bind, finds_pure] at h
  rcases h with ⟨_, a, ha, _, start, hstart, low, b, hlow, _, c, hc, _, d, hd, _, e, he, _, f, hf,
    _, g, hg, high, i, hhigh, hcondition, _⟩
  rcases (finds_gap opens_freeNumeral_solid).mp ⟨(), e, he, (), f, hf, (), g, hg, hhigh⟩ with
    ⟨m, hm, hhigh'⟩
  have hrange : start.BareRange condition := by
    rw [hcondition]
    exact .intro (finds_freeNumeral.mp hlow) (finds_blanks.mp hc).1 (finds_symbol.mp hd).2 hm
      (finds_freeNumeral.mp hhigh')
  rcases (finds_blanks.mp hstart).1 with ⟨gap, hgap, hblank⟩
  have hgapDigit : forall c : Char, c ∈ gap -> isDigit c = false := by
    intro c hmem
    cases hc : isDigit c with
    | false => rfl
    | true =>
        have hsolid := not_isBlank_of_isDigit hc
        rw [hblank c hmem] at hsolid
        cases hsolid
  rcases finds_perhapsDollar.mp ha with ⟨found, hfound⟩
  rcases between_dollar.mp ⟨found, between_of_finds hfound⟩ with hplace | hdollar
  · rw [hplace] at hgap
    exact ⟨gap, start, hgap, hgapDigit, hrange⟩
  · refine ⟨['$'] ++ gap, start, hdollar.trans hgap, ?_, hrange⟩
    intro c hmem
    rcases List.mem_cons.mp hmem with rfl | hmem
    · decide
    · exact hgapDigit c hmem

end Pattern

end CatalogSearch
