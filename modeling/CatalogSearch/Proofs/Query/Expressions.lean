import CatalogSearch.Proofs.Query.Hits
import CatalogSearch.Proofs.Query.LetterForms
import CatalogSearch.Proofs.Text.Digits
import CatalogSearch.Query.Expression

/-!
# Hits of the expressions

The marks that tell the expressions of a query apart: a price begins with a letter that no bare
form has, a range has exactly one hyphen, and a numeral ends where no word goes on.
-/

namespace CatalogSearch

open Text

namespace Pattern

/-!
## Classes of characters
-/

def IsAmountChar (c : Char) : Prop :=
  c = '$' ∨ c = '.' ∨ isBlank c = true ∨ isDigit c = true

def IsComparisonChar (c : Char) : Prop :=
  c = '<' ∨ c = '>' ∨ c = '=' ∨ IsAmountChar c

theorem not_isAmountChar_hyphen :
    ¬ IsAmountChar '-' := by
  intro h
  rcases h with h | h | h | h
  · cases h
  · cases h
  · revert h
    decide
  · revert h
    decide

theorem not_isComparisonChar_hyphen :
    ¬ IsComparisonChar '-' := by
  intro h
  rcases h with h | h | h | h
  · cases h
  · cases h
  · cases h
  · exact not_isAmountChar_hyphen h

theorem not_isComparisonChar_p
    {c : Char} (h : sameLetter 'p' c = true) :
    ¬ IsComparisonChar c := by
  intro hc
  rcases sameLetter_p h with rfl | rfl
  · rcases hc with hc | hc | hc | hc | hc | hc | hc
    all_goals revert hc
    all_goals decide
  · rcases hc with hc | hc | hc | hc | hc | hc | hc
    all_goals revert hc
    all_goals decide

theorem not_space_p
    {c : Char} (h : sameLetter 'p' c = true) :
    c ≠ ' ' := by
  intro heq
  rw [heq] at h
  cases h

theorem isIdChar_p
    {c : Char} (h : sameLetter 'p' c = true) :
    isIdChar c = true := by
  rcases sameLetter_p h with rfl | rfl
  · rfl
  · rfl

theorem continuesNumber_p
    {c : Char} {rest : List Char} (h : sameLetter 'p' c = true) :
    continuesNumber (c :: rest) = true := by
  rcases sameLetter_p h with rfl | rfl
  · rfl
  · rfl

theorem p_not_mem_amount
    {c : Char} {text : List Char} (h : sameLetter 'p' c = true)
    (htext : forall d : Char, d ∈ text -> IsAmountChar d) :
    c ∉ text :=
  fun hmem => not_isComparisonChar_p h (Or.inr (Or.inr (Or.inr (htext c hmem))))

theorem hyphen_not_mem_amount
    {text : List Char} (h : forall c : Char, c ∈ text -> IsAmountChar c) :
    '-' ∉ text :=
  fun hmem => not_isAmountChar_hyphen (h '-' hmem)

/-!
## Numerals
-/

section Covers

variable {allowed : Char -> Prop}

theorem covers_numeral
    (hdigit : forall c : Char, isDigit c = true -> allowed c) (hpoint : allowed '.') :
    Covers allowed numeral := by
  have hpointChar : Covers allowed (charWhere (· == '.')) := by
    apply covers_charWhere
    intro c hc
    rw [beq_iff_eq.mp hc]
    exact hpoint
  have hdecimals : Covers allowed decimals :=
    hpointChar.bind fun _ => (covers_charWhere hdigit).bind fun _ =>
      (covers_charWhere hdigit).perhaps.bind fun _ => covers_pure _
  exact (covers_someWhere hdigit).bind fun _ => hdecimals.perhaps.bind fun _ => covers_pure _

theorem freshPlace_eq_some
    {prev : Option Char} {text : List Char} {hit : Hit Unit}
    (h : freshPlace prev text = some hit) :
    hit = ⟨(), [], text⟩ := by
  unfold freshPlace at h
  split at h
  · cases h
  · exact (Option.some.inj h).symm

theorem numberEnd_eq_some
    {prev : Option Char} {text : List Char} {hit : Hit Unit}
    (h : numberEnd prev text = some hit) :
    continuesNumber text = false ∧ hit = ⟨(), [], text⟩ := by
  unfold numberEnd at h
  split at h
  · cases h
  · rename_i hends
    exact ⟨Bool.not_eq_true _ ▸ hends, (Option.some.inj h).symm⟩

theorem covers_freeNumeral
    (hdigit : forall c : Char, isDigit c = true -> allowed c) (hpoint : allowed '.') :
    Covers allowed freeNumeral :=
  (covers_place fun _ _ _ h => freshPlace_eq_some h).bind fun _ =>
    (covers_numeral hdigit hpoint).bind fun _ =>
      (covers_place fun _ _ _ h => (numberEnd_eq_some h).2).bind fun _ => covers_pure _

theorem covers_perhapsDollar
    (hdollar : allowed '$') :
    Covers allowed perhapsDollar := by
  have hchar : Covers allowed (charWhere (· == '$')) := by
    apply covers_charWhere
    intro c hc
    rw [beq_iff_eq.mp hc]
    exact hdollar
  exact hchar.perhaps.bind fun _ => covers_pure ()

end Covers

theorem freeNumeral_hit
    {prev : Option Char} {text : List Char} {hit : Hit Digits}
    (h : freeNumeral prev text = some hit) :
    text.takeWhile isDigit ≠ [] ∧ hit.text ≠ [] ∧ continuesNumber hit.rest = false := by
  rcases bind_parts h with ⟨place, after₁, hplace, h₁, _, htext, hrest⟩
  rcases bind_parts h₁ with ⟨digits, after₂, hdigits, h₂, _, htext₁, hrest₁⟩
  rcases bind_parts h₂ with ⟨ending, last, hending, hlast, _, _, hrest₂⟩
  rw [freshPlace_eq_some hplace] at hdigits
  rcases bind_parts hdigits with ⟨whole, _, hwhole, _, _, hdigitsText, _⟩
  rcases numberEnd_eq_some hending with ⟨hends, hendingHit⟩
  rcases someWhere_eq_some.mp hwhole with ⟨hne, hwholeHit⟩
  refine ⟨hne, ?_, ?_⟩
  · rw [htext, htext₁, hdigitsText, hwholeHit]
    exact List.append_ne_nil_of_right_ne_nil _
      (List.append_ne_nil_of_left_ne_nil (List.append_ne_nil_of_left_ne_nil hne _) _)
  · rw [hrest, hrest₁, hrest₂, pure_eq_some.mp hlast, hendingHit]
    exact hends

theorem takeWhile_blank_of_freeNumeral
    {prev : Option Char} {text : List Char} {hit : Hit Digits}
    (h : freeNumeral prev text = some hit) :
    text.takeWhile isBlank = [] ∧ text.dropWhile isBlank = text := by
  have hdigits := (freeNumeral_hit h).1
  cases text with
  | nil => exact absurd rfl hdigits
  | cons c rest =>
      cases hc : isDigit c with
      | false =>
          rw [List.takeWhile_cons, hc] at hdigits
          exact absurd rfl hdigits
      | true =>
          have hsolid := not_isBlank_of_isDigit hc
          rw [List.takeWhile_cons, List.dropWhile_cons, hsolid]
          exact ⟨rfl, rfl⟩

/-!
## The parts of the price forms
-/

theorem isAmountChar_of_isBlank (c : Char) (h : isBlank c = true) :
    IsAmountChar c :=
  Or.inr (Or.inr (Or.inl h))

theorem isAmountChar_of_isDigit (c : Char) (h : isDigit c = true) :
    IsAmountChar c :=
  Or.inr (Or.inr (Or.inr h))

theorem covers_amountBlanks :
    Covers IsAmountChar blanks :=
  covers_blanks isAmountChar_of_isBlank

theorem covers_amountDollar :
    Covers IsAmountChar perhapsDollar :=
  covers_perhapsDollar (Or.inl rfl)

theorem covers_amountNumeral :
    Covers IsAmountChar freeNumeral :=
  covers_freeNumeral isAmountChar_of_isDigit (Or.inr (Or.inl rfl))

def bareRangeEnd (low : Digits) : Pattern PricePredicate := do
  blanks
  perhapsDollar
  blanks
  let high ← freeNumeral
  pure (.between low.value high.value)

theorem covers_bareRangeEnd (low : Digits) :
    Covers IsAmountChar (bareRangeEnd low) :=
  covers_amountBlanks.bind fun _ => covers_amountDollar.bind fun _ =>
    covers_amountBlanks.bind fun _ => covers_amountNumeral.bind fun _ => covers_pure _

/-- A bare range is two parts without a hyphen, joined by one. -/
theorem bareRange_hit
    {prev : Option Char} {text : List Char} {hit : Hit PricePredicate}
    (h : bareRange prev text = some hit) :
    exists front back : List Char, hit.text = front ++ '-' :: back ∧
      (forall c : Char, c ∈ front -> IsAmountChar c) ∧
      (forall c : Char, c ∈ back -> IsAmountChar c) ∧
      exists low : Digits,
        bareRangeEnd low (some '-') (back ++ hit.rest) = some ⟨hit.value, back, hit.rest⟩ := by
  rcases bind_parts h with ⟨dollar, after₁, hdollar, h₁, hvalue, htext, hrest⟩
  rcases bind_parts h₁ with ⟨gap, after₂, hgap, h₂, hvalue₁, htext₁, hrest₁⟩
  rcases bind_parts h₂ with ⟨low, after₃, hlow, h₃, hvalue₂, htext₂, hrest₂⟩
  rcases bind_parts h₃ with ⟨gap', after₄, hgap', h₄, hvalue₃, htext₃, hrest₃⟩
  rcases bind_parts h₄ with ⟨hyphen, last, hhyphen, hlast, hvalue₄, htext₄, hrest₄⟩
  rcases charWhere_eq_some.mp hhyphen with ⟨c, rest, _, hc, hhyphenHit⟩
  rw [hhyphenHit, beq_iff_eq.mp hc] at hlast htext₄
  have hend : bareRangeEnd low.value (some '-') rest = some last := hlast
  rw [hvalue₁, hvalue₂, hvalue₃, hvalue₄] at hvalue
  rw [htext₁, htext₂, htext₃, htext₄] at htext
  rw [hrest₁, hrest₂, hrest₃, hrest₄] at hrest
  refine ⟨dollar.text ++ gap.text ++ low.text ++ gap'.text, last.text, ?_, ?_, ?_, low.value, ?_⟩
  · rw [htext]
    simp only [List.append_assoc, List.cons_append, List.nil_append]
  · intro d hmem
    simp only [List.mem_append] at hmem
    rcases hmem with ((hmem | hmem) | hmem) | hmem
    · exact covers_amountDollar.chars hdollar d hmem
    · exact covers_amountBlanks.chars hgap d hmem
    · exact covers_amountNumeral.chars hlow d hmem
    · exact covers_amountBlanks.chars hgap' d hmem
  · exact (covers_bareRangeEnd low.value).chars hend
  · rw [hvalue, hrest, ← (covers_bareRangeEnd low.value).split hend]
    exact hend

theorem Covers.orHyphen
    {α : Type} {pattern : Pattern α} (h : Covers IsAmountChar pattern) :
    Covers (fun c => c = '-' ∨ IsAmountChar c) pattern :=
  h.mono fun _ hc => Or.inr hc

theorem covers_hyphen :
    Covers (fun c => c = '-' ∨ IsAmountChar c) (charWhere (· == '-')) :=
  covers_charWhere fun _ hc => Or.inl (beq_iff_eq.mp hc)

theorem covers_bareRange :
    Covers (fun c => c = '-' ∨ IsAmountChar c) bareRange :=
  covers_amountDollar.orHyphen.bind fun _ => covers_amountBlanks.orHyphen.bind fun _ =>
    covers_amountNumeral.orHyphen.bind fun low => covers_amountBlanks.orHyphen.bind fun _ =>
      covers_hyphen.bind fun _ => (covers_bareRangeEnd low).orHyphen

theorem covers_comparisonSign :
    Covers IsComparisonChar comparisonSign := by
  have hsign : forall (text : String) (value : Comparison),
      (text.toList.all fun letter => decide (letter = '<' ∨ letter = '>' ∨ letter = '=')) = true ->
      Covers IsComparisonChar (word text >>= fun _ => pure value) := by
    intro text value hletters
    refine Covers.bind (covers_word ?_) fun _ => covers_pure value
    intro letter hmem c hc
    have hletter : letter = '<' ∨ letter = '>' ∨ letter = '=' := forall_mem_of_check hmem hletters
    rcases hletter with rfl | rfl | rfl
    · exact Or.inl (sameLetter_symbol rfl hc)
    · exact Or.inr (Or.inl (sameLetter_symbol rfl hc))
    · exact Or.inr (Or.inr (Or.inl (sameLetter_symbol rfl hc)))
  apply covers_anyOf
  intro pattern hmem
  simp only [List.mem_cons, List.not_mem_nil, or_false] at hmem
  rcases hmem with rfl | rfl | rfl | rfl | rfl
  · exact hsign "<=" .atMost (by decide)
  · exact hsign ">=" .atLeast (by decide)
  · exact hsign "<" .less (by decide)
  · exact hsign ">" .greater (by decide)
  · exact hsign "=" .equal (by decide)

theorem covers_bareComparison :
    Covers IsComparisonChar bareComparison := by
  have hblank : forall c : Char, isBlank c = true -> IsComparisonChar c := by
    intro c hc
    exact Or.inr (Or.inr (Or.inr (isAmountChar_of_isBlank c hc)))
  have hdigit : forall c : Char, isDigit c = true -> IsComparisonChar c := by
    intro c hc
    exact Or.inr (Or.inr (Or.inr (isAmountChar_of_isDigit c hc)))
  have hdollar : Covers IsComparisonChar perhapsDollar :=
    covers_perhapsDollar (Or.inr (Or.inr (Or.inr (Or.inl rfl))))
  have hnumeral : Covers IsComparisonChar freeNumeral :=
    covers_freeNumeral hdigit (Or.inr (Or.inr (Or.inr (Or.inr (Or.inl rfl)))))
  exact covers_comparisonSign.bind fun _ => (covers_blanks hblank).bind fun _ =>
    hdollar.bind fun _ => (covers_blanks hblank).bind fun _ => hnumeral.bind fun _ => covers_pure _

theorem bareComparison_hit
    {prev : Option Char} {text : List Char} {hit : Hit PricePredicate}
    (h : bareComparison prev text = some hit) :
    hit.text ≠ [] ∧ continuesNumber hit.rest = false := by
  rcases bind_parts h with ⟨sign, after₁, _, h₁, _, htext, hrest⟩
  rcases bind_parts h₁ with ⟨gap, after₂, _, h₂, _, htext₁, hrest₁⟩
  rcases bind_parts h₂ with ⟨dollar, after₃, _, h₃, _, htext₂, hrest₂⟩
  rcases bind_parts h₃ with ⟨gap', after₄, _, h₄, _, htext₃, hrest₃⟩
  rcases bind_parts h₄ with ⟨value, last, hvalue, hlast, _, htext₄, hrest₄⟩
  rcases freeNumeral_hit hvalue with ⟨_, hne, hends⟩
  constructor
  · rw [htext, htext₁, htext₂, htext₃, htext₄]
    intro hnil
    simp only [List.append_eq_nil_iff] at hnil
    exact hne hnil.2.2.2.2.1
  · rw [hrest, hrest₁, hrest₂, hrest₃, hrest₄, pure_eq_some.mp hlast]
    exact hends

theorem covers_rangeEnd :
    Covers (fun c => c = '-' ∨ IsAmountChar c) rangeEnd :=
  covers_hyphen.bind fun _ => covers_amountBlanks.orHyphen.bind fun _ =>
    covers_amountDollar.orHyphen.bind fun _ => covers_amountNumeral.orHyphen

theorem covers_priceExpression :
    Covers (fun _ => True) priceExpression := by
  have hany : forall {α : Type} {allowed : Char -> Prop} {pattern : Pattern α},
      Covers allowed pattern -> Covers (fun _ => True) pattern := by
    intro α allowed pattern hcovers
    exact hcovers.mono fun _ _ => trivial
  have hblanks := hany covers_amountBlanks
  refine (covers_word fun _ _ _ _ => trivial).bind fun _ => hblanks.bind fun _ =>
    (hany covers_comparisonSign).perhaps.bind fun _ => hblanks.bind fun _ =>
      (hany covers_amountDollar).bind fun _ => (hany covers_amountNumeral).bind fun _ =>
        hblanks.bind fun _ => (hany covers_rangeEnd).perhaps.bind fun high => ?_
  cases high with
  | none => exact covers_pure _
  | some high => exact covers_pure _

theorem letters_hit
    {letter : Char} {list : List Char} {prev : Option Char} {text : List Char} {hit : Hit Unit}
    (h : letters (letter :: list) prev text = some hit) :
    exists c : Char, exists rest : List Char,
      hit.text = c :: rest ∧ sameLetter letter c = true := by
  have hbind : (charWhere (sameLetter letter) >>= fun _ => letters list) prev text = some hit := h
  rcases bind_eq_some.mp hbind with ⟨lead, last, hlead, _, hhit⟩
  rcases charWhere_eq_some.mp hlead with ⟨c, rest, _, hc, hleadHit⟩
  refine ⟨c, last.text, ?_, hc⟩
  rw [hhit, hleadHit]
  rfl

theorem Covers.withoutHyphen
    {α : Type} {allowed : Char -> Prop} {pattern : Pattern α} (h : Covers allowed pattern)
    (hhyphen : ¬ allowed '-') :
    Covers (fun c => c ≠ '-') pattern := by
  apply h.mono
  intro c hc heq
  rw [heq] at hc
  exact hhyphen hc

theorem covers_priceMark :
    Covers (fun c => c ≠ '-') (word "price:") := by
  apply covers_word
  intro letter hmem c hc heq
  rw [heq] at hc
  rw [sameLetter_hyphen hc] at hmem
  exact absurd hmem (by decide)

/-- A marked price begins with its letter, and its only hyphen is that of a range. -/
theorem priceExpression_hit
    {prev : Option Char} {text : List Char} {hit : Hit PricePredicate}
    (h : priceExpression prev text = some hit) :
    exists first : Char, exists front back : List Char, hit.text = first :: front ++ back ∧
      sameLetter 'p' first = true ∧ (forall c : Char, c ∈ first :: front -> c ≠ '-') ∧
      (back = [] ∨ exists high : Digits, exists before : Option Char,
        rangeEnd before (back ++ hit.rest) = some ⟨high, back, hit.rest⟩) := by
  rcases bind_parts h with ⟨mark, after₁, hmark, h₁, _, htext, hrest⟩
  rcases bind_parts h₁ with ⟨gap, after₂, hgap, h₂, _, htext₁, hrest₁⟩
  rcases bind_parts h₂ with ⟨sign, after₃, hsign, h₃, _, htext₂, hrest₂⟩
  rcases bind_parts h₃ with ⟨gap', after₄, hgap', h₄, _, htext₃, hrest₃⟩
  rcases bind_parts h₄ with ⟨dollar, after₅, hdollar, h₅, _, htext₄, hrest₄⟩
  rcases bind_parts h₅ with ⟨low, after₆, hlow, h₆, _, htext₅, hrest₅⟩
  rcases bind_parts h₆ with ⟨gap'', after₇, hgap'', h₇, _, htext₆, hrest₆⟩
  rcases bind_parts h₇ with ⟨high, last, hhigh, hlast, _, htext₇, hrest₇⟩
  have hlastHit : last.text = [] ∧ last.rest = high.rest := by
    cases hvalue : high.value with
    | none =>
        simp only [hvalue] at hlast
        rw [pure_eq_some.mp hlast]
        exact ⟨rfl, rfl⟩
    | some value =>
        simp only [hvalue] at hlast
        rw [pure_eq_some.mp hlast]
        exact ⟨rfl, rfl⟩
  rw [htext₁, htext₂, htext₃, htext₄, htext₅, htext₆, htext₇, hlastHit.1, List.append_nil] at htext
  rw [hrest₁, hrest₂, hrest₃, hrest₄, hrest₅, hrest₆, hrest₇, hlastHit.2] at hrest
  rcases letters_hit hmark with ⟨first, marked, hmarkText, hfirst⟩
  have hfront : forall c : Char, c ∈ mark.text ++ gap.text ++ sign.text ++ gap'.text ++
      dollar.text ++ low.text ++ gap''.text -> c ≠ '-' := by
    intro c hmem
    have hblanks := covers_amountBlanks.withoutHyphen not_isAmountChar_hyphen
    have hsigns := (covers_comparisonSign.withoutHyphen not_isComparisonChar_hyphen).perhaps
    simp only [List.mem_append] at hmem
    rcases hmem with (((((hmem | hmem) | hmem) | hmem) | hmem) | hmem) | hmem
    · exact covers_priceMark.chars hmark c hmem
    · exact hblanks.chars hgap c hmem
    · exact hsigns.chars hsign c hmem
    · exact hblanks.chars hgap' c hmem
    · exact (covers_amountDollar.withoutHyphen not_isAmountChar_hyphen).chars hdollar c hmem
    · exact (covers_amountNumeral.withoutHyphen not_isAmountChar_hyphen).chars hlow c hmem
    · exact hblanks.chars hgap'' c hmem
  rw [hmarkText] at htext hfront
  refine ⟨first, marked ++ gap.text ++ sign.text ++ gap'.text ++ dollar.text ++ low.text ++
    gap''.text, high.text, ?_, hfirst, ?_, ?_⟩
  · rw [htext]
    simp only [List.append_assoc, List.cons_append]
  · simpa only [List.cons_append] using hfront
  · rcases perhaps_eq_some.mp hhigh with ⟨inner, hinner, hhighHit⟩ | ⟨_, hhighHit⟩
    · right
      rw [hrest, hhighHit]
      refine ⟨inner.value, ?_⟩
      rw [← covers_rangeEnd.split hinner]
      exact ⟨_, hinner⟩
    · left
      rw [hhighHit]

theorem rangeEnd_hit
    {prev : Option Char} {text : List Char} {hit : Hit Digits}
    (h : rangeEnd prev text = some hit) :
    exists tail : List Char, hit.text = '-' :: tail ∧
      forall c : Char, c ∈ tail -> IsAmountChar c := by
  rcases bind_parts h with ⟨hyphen, last, hhyphen, hlast, _, htext, _⟩
  rcases charWhere_eq_some.mp hhyphen with ⟨c, rest, _, hc, hhyphenHit⟩
  rw [hhyphenHit, beq_iff_eq.mp hc] at htext
  have hcovers : Covers IsAmountChar (do blanks; perhapsDollar; freeNumeral) :=
    covers_amountBlanks.bind fun _ => covers_amountDollar.bind fun _ => covers_amountNumeral
  exact ⟨last.text, htext, hcovers.chars hlast⟩

/-- At one hyphen the two readings of a range end alike. -/
theorem rangeEnd_text
    {before : Option Char} {low : Digits} {text : List Char} {marked : Hit Digits}
    {bare : Hit PricePredicate} (hmarked : rangeEnd before ('-' :: text) = some marked)
    (hbare : bareRangeEnd low (some '-') text = some bare) :
    marked.text = '-' :: bare.text := by
  rcases bind_parts hmarked with ⟨hyphen, tail, hhyphen, htail, _, hmarkedText, _⟩
  rcases charWhere_eq_some.mp hhyphen with ⟨c, rest, htext, _, hhyphenHit⟩
  injection htext with hc hrest
  rw [hhyphenHit, ← hc, ← hrest] at htail hmarkedText
  rcases bind_parts htail with ⟨gap, tail₁, hgap, htail₁, _, htailText, _⟩
  rcases bind_parts htail₁ with ⟨dollar, numeral, hdollar, hnumeral, _, htailText₁, _⟩
  rcases bind_parts hbare with ⟨gap', end₁, hgap', hend₁, _, hbareText, _⟩
  rcases bind_parts hend₁ with ⟨dollar', end₂, hdollar', hend₂, _, hbareText₁, _⟩
  rcases bind_parts hend₂ with ⟨gap'', end₃, hgap'', hend₃, _, hbareText₂, _⟩
  rcases bind_parts hend₃ with ⟨numeral', last, hnumeral', hlast, _, hbareText₃, _⟩
  have hgapEq : gap' = gap := Option.some.inj (hgap'.symm.trans hgap)
  rw [hgapEq] at hdollar' hbareText hend₂ hend₃ hnumeral' hgap''
  have hdollarEq : dollar' = dollar := Option.some.inj (hdollar'.symm.trans hdollar)
  rw [hdollarEq] at hbareText₁ hgap'' hnumeral'
  have hnoGap := takeWhile_blank_of_freeNumeral hnumeral
  have hgapHit := blanks_eq_some.mp hgap''
  rw [hnoGap.1, hnoGap.2] at hgapHit
  rw [hgapHit] at hbareText₂ hnumeral'
  have hnumeralEq : numeral' = numeral := Option.some.inj (hnumeral'.symm.trans hnumeral)
  rw [pure_eq_some.mp hlast, hnumeralEq, List.append_nil] at hbareText₃
  rw [hmarkedText, htailText, htailText₁, hbareText, hbareText₁, hbareText₂, hbareText₃]
  rfl

/-!
## Ids
-/

theorem toNat_lt_of_isAlphanum
    {c : Char} (h : c.isAlphanum = true) :
    c.toNat < 128 := by
  unfold Char.isAlphanum Char.isAlpha Char.isUpper Char.isLower Char.isDigit at h
  simp only [Bool.or_eq_true, Bool.and_eq_true, decide_eq_true_iff, ge_iff_le,
    UInt32.le_iff_toNat_le] at h
  have hupper : 'Z'.val.toNat < 128 := by decide
  have hlower : 'z'.val.toNat < 128 := by decide
  have hdigit : '9'.val.toNat < 128 := by decide
  rcases h with (⟨_, h⟩ | ⟨_, h⟩) | ⟨_, h⟩
  · exact Nat.lt_of_le_of_lt h hupper
  · exact Nat.lt_of_le_of_lt h hlower
  · exact Nat.lt_of_le_of_lt h hdigit

theorem not_isBlank_of_isIdChar
    {c : Char} (h : isIdChar c = true) :
    isBlank c = false := by
  unfold isIdChar at h
  simp only [Bool.or_eq_true, beq_iff_eq] at h
  rcases h with ((((hascii | hhyphen) | hcode) | hcode) | hcode) | hcode
  · have hc : c.isAlphanum = true -> isBlank c = false :=
      forall_ascii (toNat_lt_of_isAlphanum hascii) (by decide)
    exact hc hascii
  · rw [hhyphen]
    decide
  all_goals
    unfold isBlank
    rw [hcode]
    decide

theorem letters_again
    {list : List Char} {prev : Option Char} {text : List Char} {hit : Hit Unit}
    (h : letters list prev text = some hit) (other : Option Char) (tail : List Char) :
    letters list other (hit.text ++ tail) = some ⟨(), hit.text, tail⟩ := by
  induction list generalizing prev text hit other with
  | nil =>
      rw [pure_eq_some.mp h]
      rfl
  | cons letter list ih =>
      have hbind : (charWhere (sameLetter letter) >>= fun _ => letters list) prev text =
          some hit := h
      rcases bind_parts hbind with ⟨lead, last, hlead, hlast, _, htext, _⟩
      rcases charWhere_eq_some.mp hlead with ⟨c, rest, _, hc, hleadHit⟩
      rw [hleadHit] at htext hlast
      rw [htext]
      have hfirst : charWhere (sameLetter letter) other (c :: (last.text ++ tail)) =
          some ⟨c, [c], last.text ++ tail⟩ :=
        charWhere_eq_some.mpr ⟨c, last.text ++ tail, rfl, hc, rfl⟩
      have hagain : (charWhere (sameLetter letter) >>= fun _ => letters list) other
          (c :: (last.text ++ tail)) = some ⟨(), [c] ++ last.text, tail⟩ :=
        bind_eq_some.mpr ⟨_, _, hfirst, ih hlast (some c), rfl⟩
      exact hagain

theorem markedId_hit
    {prev : Option Char} {text : List Char} {hit : Hit (List Char)}
    (h : markedId prev text = some hit) :
    hit.value ≠ [] ∧ hit.text ≠ [] ∧
      forall c : Char, hit.rest.head? = some c -> isIdChar c = false := by
  rcases bind_parts h with ⟨mark, after₁, hmark, h₁, hvalue, htext, hrest⟩
  rcases bind_parts h₁ with ⟨gap, id, _, hid, hvalue₁, htext₁, hrest₁⟩
  rcases someWhere_eq_some.mp hid with ⟨hne, hidHit⟩
  refine ⟨?_, ?_, ?_⟩
  · rw [hvalue, hvalue₁, hidHit]
    exact hne
  · rcases letters_hit hmark with ⟨first, marked, hmarkText, _⟩
    rw [htext, hmarkText]
    exact List.cons_ne_nil _ _
  · intro c hhead
    rw [hrest, hrest₁, hidHit] at hhead
    exact head_dropWhile hhead

theorem markedId_again
    {prev : Option Char} {text : List Char} {hit : Hit (List Char)}
    (h : markedId prev text = some hit) (other : Option Char) (tail : List Char) :
    exists again : Hit (List Char), markedId other (hit.text ++ tail) = some again := by
  rcases bind_parts h with ⟨mark, after₁, hmark, h₁, _, htext, _⟩
  rcases bind_parts h₁ with ⟨gap, id, hgap, hid, _, htext₁, _⟩
  have hgapHit := blanks_eq_some.mp hgap
  rcases someWhere_eq_some.mp hid with ⟨hne, hidHit⟩
  have hidChars : forall c : Char, c ∈ id.text -> isIdChar c = true := by
    intro c hmem
    rw [hidHit] at hmem
    exact mem_takeWhile hmem
  have hgapChars : forall c : Char, c ∈ gap.text -> isBlank c = true := by
    intro c hmem
    rw [hgapHit] at hmem
    exact mem_takeWhile hmem
  cases hidText : id.text with
  | nil =>
      rw [hidHit] at hidText
      exact absurd hidText hne
  | cons first rest =>
      rw [hidText] at hidChars htext₁
      have hfirst := hidChars first List.mem_cons_self
      have hsolid := not_isBlank_of_isIdChar hfirst
      have hagain : hit.text ++ tail = mark.text ++ (gap.text ++ first :: (rest ++ tail)) := by
        rw [htext, htext₁]
        simp only [List.append_assoc, List.cons_append]
      have hblanks : forall place : Option Char,
          blanks place (gap.text ++ first :: (rest ++ tail)) =
            some ⟨(), gap.text, first :: (rest ++ tail)⟩ := by
        intro place
        apply blanks_eq_some.mpr
        rw [List.takeWhile_append_of_pos hgapChars, List.dropWhile_append_of_pos hgapChars,
          List.takeWhile_cons, List.dropWhile_cons, hsolid, if_neg Bool.false_ne_true,
          if_neg Bool.false_ne_true, List.append_nil]
      have hfound : forall place : Option Char, exists found : Hit (List Char),
          someWhere isIdChar place (first :: (rest ++ tail)) = some found := by
        intro place
        refine ⟨_, someWhere_eq_some.mpr ⟨?_, rfl⟩⟩
        rw [List.takeWhile_cons, hfirst]
        exact List.cons_ne_nil _ _
      rcases hfound _ with ⟨found, hfound⟩
      rw [hagain]
      exact ⟨_, bind_some (letters_again hmark other _) (bind_some (hblanks _) hfound)⟩

theorem covers_markedId :
    Covers (fun _ => True) markedId :=
  (covers_word fun _ _ _ _ => trivial).bind fun _ =>
    (covers_blanks fun _ _ => trivial).bind fun _ => covers_someWhere fun _ _ => trivial

theorem covers_idExpression :
    Covers (fun _ => True) idExpression :=
  (covers_atStart.bind fun _ => covers_markedId).orElse
    ((covers_charWhere fun _ _ => trivial).bind fun _ => covers_markedId)

theorem idExpression_markedId
    {prev : Option Char} {text : List Char} {hit : Hit (List Char)}
    (h : idExpression prev text = some hit) :
    exists place : Option Char, exists rest lead : List Char, exists id : Hit (List Char),
      markedId place rest = some id ∧ hit.value = id.value ∧ hit.text = lead ++ id.text ∧
        hit.rest = id.rest := by
  rcases orElse_eq_some.mp h with hstart | ⟨_, hblank⟩
  · rcases bind_parts hstart with ⟨place, id, _, hid, hvalue, htext, hrest⟩
    exact ⟨_, _, place.text, id, hid, hvalue, htext, hrest⟩
  · rcases bind_parts hblank with ⟨blank, id, _, hid, hvalue, htext, hrest⟩
    exact ⟨_, _, blank.text, id, hid, hvalue, htext, hrest⟩

theorem idExpression_hit
    {prev : Option Char} {text : List Char} {hit : Hit (List Char)}
    (h : idExpression prev text = some hit) :
    hit.text ≠ [] ∧ forall c : Char, hit.rest.head? = some c -> isIdChar c = false := by
  rcases idExpression_markedId h with ⟨_, _, lead, id, hid, _, htext, hrest⟩
  rw [htext, hrest]
  exact ⟨List.append_ne_nil_of_right_ne_nil lead (markedId_hit hid).2.1, (markedId_hit hid).2.2⟩

theorem idExpression_value
    {prev : Option Char} {text : List Char} {hit : Hit (List Char)}
    (h : idExpression prev text = some hit) :
    hit.value ≠ [] := by
  rcases idExpression_markedId h with ⟨_, _, _, id, hid, hvalue, _⟩
  rw [hvalue]
  exact (markedId_hit hid).1

theorem idExpression_again
    {prev : Char} {text : List Char} {hit : Hit (List Char)}
    (h : idExpression (some prev) text = some hit) (other : Option Char) (tail : List Char) :
    idExpression other (hit.text ++ tail) ≠ none := by
  rcases orElse_eq_some.mp h with hstart | ⟨_, hblank⟩
  · rcases bind_parts hstart with ⟨place, id, hplace, _⟩
    cases (atStart_eq_some.mp hplace).1
  · rcases bind_parts hblank with ⟨blank, id, hlead, hid, _, htext, _⟩
    rcases charWhere_eq_some.mp hlead with ⟨c, rest, _, hc, hleadHit⟩
    rw [hleadHit] at htext hid
    rcases markedId_again hid (some c) tail with ⟨again, hagain⟩
    have hsecond : (charWhere isBlank >>= fun _ => markedId) other (hit.text ++ tail) =
        some ⟨again.value, [c] ++ again.text, again.rest⟩ := by
      have hfirst : charWhere isBlank other (c :: (id.text ++ tail)) =
          some ⟨c, [c], id.text ++ tail⟩ :=
        charWhere_eq_some.mpr ⟨c, id.text ++ tail, rfl, hc, rfl⟩
      rw [htext]
      exact bind_some hfirst hagain
    intro hnone
    rcases Option.or_eq_none_iff.mp hnone with ⟨_, hnoSecond⟩
    rw [hsecond] at hnoSecond
    cases hnoSecond

end Pattern

end CatalogSearch
