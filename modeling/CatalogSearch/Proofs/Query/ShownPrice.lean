import CatalogSearch.Proofs.Number.CompactText
import CatalogSearch.Proofs.Number.Order
import CatalogSearch.Proofs.Query.PriceForms
import CatalogSearch.Proofs.Query.WholeBounds
import CatalogSearch.Query.Canonical

/-!
# The price in the canonical text

The bounds of a price are values of numerals, so that a finite bound is shown as a numeral with
the same value.  What is shown of a price is read as the same comparison or range, except that
an inclusive comparison is read as a strict one.
-/

namespace CatalogSearch

open Text Pattern

/-!
## Bounds as numerals
-/

theorem isDigit_of_ascii
    {c : Char} (h : c.isDigit = true) :
    Text.isDigit c = true := by
  unfold Text.isDigit
  rw [digitValue?_of_isDigit h]
  rfl

theorem AllDigits.isDigit
    {text : List Char} (h : AllDigits text) (c : Char) (hc : c ∈ text) :
    Text.isDigit c = true :=
  isDigit_of_ascii (h c hc)

namespace Pattern.Digits.IsNumeral

variable {digits : Digits}

theorem exists_size (digits : Digits) :
    exists size : Magnitude, digits.value = .signed false size := by
  unfold value Binary64.ofDecimal
  split
  · exact ⟨_, rfl⟩
  · split
    · exact ⟨_, rfl⟩
    · split
      · exact ⟨_, rfl⟩
      · split <;> exact ⟨_, rfl⟩

theorem exists_cents (h : digits.IsNumeral) :
    exists cents : Nat, Binary64.ofDecimal false cents (-2) = digits.value := by
  have hlength := h.fraction_length
  have hscaled := @Binary64.ofDecimal_mul_pow false
    (digitsValue (digits.whole ++ digits.fraction)) (-digits.fraction.length)
    (2 - digits.fraction.length) (by omega) (by omega) (by omega)
  have hexponent : -(digits.fraction.length : Int) - (2 - digits.fraction.length : Nat) = -2 := by
    omega
  rw [hexponent] at hscaled
  exact ⟨_, hscaled⟩

theorem exists_shown (h : digits.IsNumeral) (hfinite : digits.value.isFinite = true) :
    exists shown : Digits, shown.IsNumeral ∧ shown.value = digits.value ∧
      digits.value.compactText = shown.text := by
  rcases exists_size digits with ⟨size, hsize⟩
  rcases h.exists_cents with ⟨cents, hcents⟩
  rw [hsize] at hfinite hcents ⊢
  by_cases hwhole : size.units % unitsPerOne = 0
  · rcases Binary64.compactText_whole hwhole hfinite with ⟨htext, hvalue⟩
    generalize size.units / unitsPerOne = n at htext hvalue
    refine ⟨⟨decimalDigits n, []⟩, ⟨decimalDigits_ne_nil n, ?_, nofun, Nat.zero_le 2⟩, ?_, ?_⟩
    · exact (decimalDigits_allDigits n).isDigit
    · show Binary64.ofDecimal false (digitsValue (decimalDigits n ++ [])) 0 = _
      rw [List.append_nil, digitsValue_decimalDigits, hvalue]
    · exact htext.trans (List.append_nil _).symm
  · have hrank : 0 < size.rank := by
      apply Nat.pos_of_ne_zero
      intro hzero
      apply hwhole
      rw [Magnitude.units, hzero, Magnitude.unitsAt_zero, Nat.zero_mod]
    rcases Binary64.compactText_fraction hrank hfinite hcents hwhole with
      ⟨whole, fraction, htext, hlength, hplaced⟩
    refine ⟨⟨whole, fraction⟩, ⟨?_, hplaced.whole_digits.isDigit, hplaced.fraction_digits.isDigit,
      hlength⟩, ?_, ?_⟩
    · rintro rfl
      rcases hplaced.whole_opens with hzero | ⟨c, rest, hcons, _⟩
      · cases hzero
      · cases hcons
    · have hvalue := Binary64.ofDecimal_shortestDecimal false hrank hfinite
      exact hplaced.value.trans hvalue
    · rw [htext]
      cases fraction with
      | nil => exact absurd rfl hplaced.fraction_ne_nil
      | cons c fraction => rfl

theorem of_readsAmount
    {first last : Place} (h : first.ReadsAmount digits last) :
    digits.IsNumeral := by
  rcases h with ⟨_, _, hnumeral⟩
  exact ⟨hnumeral.whole_ne_nil, hnumeral.whole, hnumeral.fraction, hnumeral.fraction_length⟩

end Pattern.Digits.IsNumeral

/-!
## Conditions in writing
-/

inductive Writes : List Char -> PricePredicate -> Prop where
  | comparison (op : Comparison) {value : Digits} :
      value.IsNumeral -> Writes (op.sign ++ value.text) (.compare op value.value)
  | range {low high : Digits} :
      low.IsNumeral -> high.IsNumeral ->
      Writes (low.text ++ '-' :: high.text) (.between low.value high.value)

theorem Place.ReadsNumeral.isNumeral
    {first last : Place} {digits : Digits} (h : first.ReadsNumeral digits last) :
    digits.IsNumeral :=
  (readsNumeral_iff.mp h).1

theorem Place.ReadsMarked.isNumeral
    {first last : Place} {sign : Option Comparison} {low : Digits}
    (h : first.ReadsMarked sign low last) :
    low.IsNumeral := by
  cases h with
  | intro _ _ _ _ _ hlow => exact hlow.isNumeral

theorem Place.MarkedPrice.written
    {first : Place} {condition : PricePredicate} (h : first.MarkedPrice condition) :
    exists body : List Char, Writes body condition := by
  cases h with
  | range hmarked hsecond =>
      cases hsecond with
      | intro _ _ _ _ hhigh => exact ⟨_, .range hmarked.isNumeral hhigh.isNumeral⟩
  | comparison hmarked _ => exact ⟨_, .comparison _ hmarked.isNumeral⟩

/-- The condition of the price forms of a text can be written. -/
theorem PriceCondition.written
    {text : List Char} {condition : PricePredicate} (h : PriceCondition text condition) :
    exists body : List Char, Writes body condition := by
  cases h with
  | marked hleft => exact hleft.stands.written
  | range _ hleft =>
      cases hleft.stands with
      | intro hlow _ _ _ hhigh => exact ⟨_, .range hlow.isNumeral hhigh.isNumeral⟩
  | comparison _ _ hleft =>
      cases hleft.stands with
      | intro _ _ hvalue => exact ⟨_, .comparison _ hvalue.isNumeral⟩

namespace Phrase

theorem isNumeral_of_amounts
    {parts : List Part} {first last : Place} {amounts : List Digits}
    (h : Finds (readParts parts) first amounts last) {digits : Digits}
    (hdigits : digits ∈ amounts) :
    digits.IsNumeral := by
  induction parts generalizing first amounts with
  | nil =>
      rw [(finds_pure.mp h).1] at hdigits
      cases hdigits
  | cons part rest ih =>
      rw [readParts_cons, finds_bind] at h
      rcases h with ⟨lead, middle, hlead, hrest⟩
      rcases finds_map.mp hrest with ⟨others, hothers, rfl⟩
      rcases List.mem_append.mp hdigits with hmem | hmem
      · cases part with
        | amount =>
            rcases finds_map.mp hlead with ⟨one, hamount, rfl⟩
            rw [List.mem_singleton.mp hmem]
            exact .of_readsAmount (finds_amount.mp hamount)
        | _ =>
            rcases finds_map.mp hlead with ⟨_, _, rfl⟩
            cases hmem
      · exact ih hothers hmem

theorem written_of_price?
    {text : List Char} {condition : PricePredicate}
    (h : (price? text).map Prod.fst = some condition) :
    exists body : List Char, Writes body condition := by
  have hfound : (foundPrice? text).isSome = true := by
    have hphrase := congrArg Option.isSome (price?_phrase text)
    rw [Option.isSome_map, Option.isSome_map] at hphrase
    rw [← hphrase, ← Option.isSome_map (f := Prod.fst), h]
    rfl
  rcases Option.isSome_iff_exists.mp hfound with ⟨found, hsome⟩
  rcases exists_amounts_of_price? h hsome with
    ⟨shape, amounts, hshape, hcondition, hne, _, hamounts⟩
  have hnumeral : forall digits : Digits, digits ∈ (shape.2 amounts).amounts ->
      digits.IsNumeral := by
    intro digits hdigits
    exact isNumeral_of_amounts hamounts (amounts_of_shape hshape hne hdigits)
  cases hbound : shape.2 amounts with
  | atMost value =>
      rw [hbound] at hcondition hnumeral
      rw [← Option.some.inj (Option.ite_none_left_eq_some.mp hcondition).2]
      exact ⟨_, .comparison .atMost (hnumeral value List.mem_cons_self)⟩
  | atLeast value =>
      rw [hbound] at hcondition hnumeral
      rw [← Option.some.inj (Option.ite_none_left_eq_some.mp hcondition).2]
      exact ⟨_, .comparison .atLeast (hnumeral value List.mem_cons_self)⟩
  | range low high =>
      rw [hbound] at hcondition hnumeral
      rw [← Option.some.inj (Option.ite_none_left_eq_some.mp hcondition).2]
      exact ⟨_, .range (hnumeral low List.mem_cons_self)
        (hnumeral high (List.mem_cons_of_mem low List.mem_cons_self))⟩

end Phrase

theorem Reading.written_of_ofQuery
    {query : List Char} {condition : PricePredicate}
    (h : (ofQuery query).criteria.price = some condition) :
    exists body : List Char, Writes body condition := by
  have hor : (ofExpressions query).criteria.price.or
      (ofPhrases (leftover query)).criteria.price = some condition := h
  rcases Option.or_eq_some_iff.mp hor with hgrammar | ⟨_, hphrase⟩
  · exact ((ofExpressions_price_eq_some_iff query condition).mp hgrammar).written
  · rw [(ofPhrases_leftover query).1] at hphrase
    exact Phrase.written_of_price? hphrase

/-!
## What is shown
-/

def Comparison.shown : Comparison -> Comparison
  | .atLeast => .greater
  | .atMost => .less
  | op => op

def PricePredicate.shown : PricePredicate -> PricePredicate
  | .compare op value => .compare op.shown value
  | .range low high => .range low high

def PricePredicate.EndsAt : PricePredicate -> Binary64 -> Prop
  | .compare .atLeast value, price => price.equals value = true
  | .compare .atMost value, price => price.equals value = true
  | _, _ => False

/-- The condition that is shown selects the prices that the condition does, except the bound of an
inclusive comparison. -/
theorem PricePredicate.holds_shown_iff (condition : PricePredicate) (price : Binary64) :
    condition.shown.holds (some price) = true <->
      condition.holds (some price) = true ∧ ¬ condition.EndsAt price := by
  have hother : forall other : PricePredicate, other.holds (some price) = true <->
      other.holds (some price) = true ∧ ¬ False :=
    fun _ => (and_iff_left not_false).symm
  cases condition with
  | range low high => exact hother _
  | compare op value =>
      cases op with
      | atMost => exact Binary64.lt_iff_le_not_equals
      | atLeast =>
          show value.lt price = true <-> value.le price = true ∧ ¬ price.equals value = true
          rw [Binary64.equals_comm price value]
          exact Binary64.lt_iff_le_not_equals
      | _ => exact hother _

theorem PricePredicate.bounds_shown (condition : PricePredicate) :
    condition.shown.bounds = condition.bounds := by
  cases condition <;> rfl

theorem PricePredicate.canonical_eq_describe (condition : PricePredicate) :
    condition.canonical = condition.shown.describe := by
  cases condition with
  | range low high => rfl
  | compare op value => cases op <;> rfl

theorem Writes.range_describe
    {low high : Digits} (hlow : low.IsNumeral) (hhigh : high.IsNumeral)
    (hlowFinite : low.value.isFinite = true) (hhighFinite : high.value.isFinite = true)
    (horder : high.value.lt low.value = false) :
    exists body : List Char,
      (PricePredicate.range low.value high.value).describe = "price:".toList ++ body ∧
        Writes body (PricePredicate.range low.value high.value) := by
  rcases hlow.exists_shown hlowFinite with ⟨shownLow, hshownLow, heqLow, htextLow⟩
  rcases hhigh.exists_shown hhighFinite with ⟨shownHigh, hshownHigh, heqHigh, htextHigh⟩
  refine ⟨shownLow.text ++ '-' :: shownHigh.text, ?_, ?_⟩
  · rw [← htextLow, ← htextHigh, ← List.append_assoc]
    rfl
  · have hwrites := Writes.range hshownLow hshownHigh
    rw [heqLow, heqHigh, PricePredicate.between, horder, if_neg Bool.false_ne_true] at hwrites
    exact hwrites

/-- A condition is described by the mark and the condition in writing, if its bounds are finite. -/
theorem Writes.describe
    {body : List Char} {condition : PricePredicate} (h : Writes body condition)
    (hfinite : forall bound : Binary64, bound ∈ condition.bounds -> bound.isFinite = true) :
    exists body' : List Char, condition.describe = "price:".toList ++ body' ∧
      Writes body' condition := by
  cases h with
  | @comparison op value hvalue =>
      rcases hvalue.exists_shown (hfinite _ List.mem_cons_self) with ⟨shown, hshown, heq, htext⟩
      refine ⟨op.sign ++ shown.text, ?_, ?_⟩
      · rw [← List.append_assoc, ← htext]
        rfl
      · rw [← heq]
        exact .comparison op hshown
  | @range low high hlow hhigh =>
      unfold PricePredicate.between at hfinite ⊢
      split
      · rename_i hlt
        rw [if_pos hlt] at hfinite
        refine range_describe hhigh hlow (hfinite _ List.mem_cons_self)
          (hfinite _ (List.mem_cons_of_mem _ List.mem_cons_self)) ?_
        cases hboth : low.value.lt high.value with
        | false => rfl
        | true =>
            have hself := Binary64.lt_trans hlt hboth
            rw [Binary64.lt_irrefl] at hself
            cases hself
      · rename_i hnotLt
        rw [if_neg hnotLt] at hfinite
        exact range_describe hlow hhigh (hfinite _ List.mem_cons_self)
          (hfinite _ (List.mem_cons_of_mem _ List.mem_cons_self)) (Bool.eq_false_iff.mpr hnotLt)

theorem Writes.shown
    {body : List Char} {condition : PricePredicate} (h : Writes body condition) :
    exists body' : List Char, Writes body' condition.shown := by
  cases h with
  | comparison op hvalue => exact ⟨_, .comparison op.shown hvalue⟩
  | @range low high hlow hhigh =>
      have hsame : (PricePredicate.between low.value high.value).shown =
          .between low.value high.value := by
        unfold PricePredicate.between
        split <;> rfl
      rw [hsame]
      exact ⟨_, .range hlow hhigh⟩

/-- The price is shown as its condition in writing behind the mark, if its bounds are finite. -/
theorem Writes.canonical
    {body : List Char} {condition : PricePredicate} (h : Writes body condition)
    (hfinite : forall bound : Binary64, bound ∈ condition.bounds -> bound.isFinite = true) :
    exists body' : List Char, condition.canonical = "price:".toList ++ body' ∧
      Writes body' condition.shown := by
  rcases h.shown with ⟨_, hshown⟩
  rw [condition.canonical_eq_describe]
  rw [← condition.bounds_shown] at hfinite
  exact hshown.describe hfinite

/-!
## What is read
-/

theorem Quiet.ends {tail : List Char} (h : Quiet tail) :
    continuesNumber tail = false :=
  @Place.continuesNumber_blank tail [] rfl h.head

theorem Pattern.Digits.IsNumeral.reads
    {digits : Digits} (h : digits.IsNumeral) {before rest : List Char}
    (hbefore : blocksNumeral before = false) (hrest : continuesNumber rest = false) :
    Place.ReadsNumeral ⟨before, digits.text ++ rest⟩ digits ⟨before ++ digits.text, rest⟩ :=
  readsNumeral_iff.mpr ⟨h, ⟨rfl, rfl⟩, hbefore, hrest⟩

theorem blocksNumeral_sign (before : List Char) (op : Comparison) :
    blocksNumeral (before ++ op.sign) = false := by
  have hsign : op.sign ≠ [] ∧ blocksNumeral op.sign = false := by
    cases op <;> decide
  rw [blocksNumeral_append hsign.1]
  exact hsign.2

theorem readsMark (before rest : List Char) :
    Place.ReadsMark ⟨before, "price:".toList ++ rest⟩ ⟨before ++ "price:".toList, rest⟩ := by
  refine ⟨"price:".toList, ⟨rfl, rfl⟩, ?_⟩
  have hsame : ("price:".toList.all fun letter => sameLetter letter letter) = true := by decide
  exact List.forall₂_same.mpr (List.all_eq_true.mp hsame)

inductive Place.ReadsPrice (first : Place) : PricePredicate -> Place -> Prop where
  | range {sign : Option Comparison} {low high : Digits} {middle last : Place} :
      first.ReadsMarked sign low middle -> middle.ReadsSecond high last ->
      ReadsPrice first (.between low.value high.value) last
  | comparison {sign : Option Comparison} {low : Digits} {last : Place} :
      first.ReadsMarked sign low last ->
      (forall (high : Digits) (other : Place), ¬ last.ReadsSecond high other) ->
      ReadsPrice first (.compare (sign.getD .equal) low.value) last

theorem Place.ReadsPrice.markedPrice
    {first last : Place} {condition : PricePredicate} (h : first.ReadsPrice condition last) :
    first.MarkedPrice condition := by
  cases h with
  | range hmarked hsecond => exact .range hmarked hsecond
  | comparison hmarked hsingle => exact .comparison hmarked hsingle

/-!
## Amounts
-/

structure Amount where
  dollar : Bool
  digits : Digits

namespace Amount

def text (amount : Amount) : List Char :=
  if amount.dollar then '$' :: amount.digits.text else amount.digits.text

def value (amount : Amount) : Binary64 :=
  amount.digits.value

theorem reads {amount : Amount} (h : amount.digits.IsNumeral) {before rest : List Char}
    (hbefore : blocksNumeral before = false) (hrest : continuesNumber rest = false) :
    exists middle : Place, Place.ReadsDollar ⟨before, amount.text ++ rest⟩ middle ∧
      middle.ReadsNumeral amount.digits ⟨before ++ amount.text, rest⟩ := by
  rcases amount with ⟨dollar, digits⟩
  cases dollar with
  | false => exact ⟨_, Or.inl rfl, h.reads hbefore hrest⟩
  | true =>
      have hseparates : Phrase.separates '$' = true := by decide
      have hnumeral := h.reads (Phrase.blocksNumeral_separates hseparates before) hrest
      rw [List.append_assoc] at hnumeral
      exact ⟨_, Or.inr ⟨rfl, rfl⟩, hnumeral⟩

end Amount

inductive WritesAmounts : List Char -> PricePredicate -> Prop where
  | comparison (op : Comparison) {amount : Amount} :
      amount.digits.IsNumeral ->
      WritesAmounts (op.sign ++ amount.text) (.compare op amount.value)
  | range {low high : Amount} :
      low.digits.IsNumeral -> high.digits.IsNumeral ->
      WritesAmounts (low.text ++ '-' :: high.text) (.between low.value high.value)

theorem Writes.amounts {body : List Char} {condition : PricePredicate} (h : Writes body condition) :
    WritesAmounts body condition := by
  cases h with
  | @comparison op value hvalue => exact @WritesAmounts.comparison op ⟨false, value⟩ hvalue
  | @range low high hlow hhigh => exact @WritesAmounts.range ⟨false, low⟩ ⟨false, high⟩ hlow hhigh

section Marked

variable {before rest : List Char} (hquiet : Quiet rest)

theorem not_readsSecond (hhyphen : '-' ∉ rest) (high : Digits) (last : Place) :
    ¬ Place.ReadsSecond ⟨before, rest⟩ high last := by
  intro hsecond
  cases hsecond with
  | intro hblanks hread _ _ _ =>
      rcases hblanks with ⟨part, hpart, _⟩
      have hrest := hpart.rest
      rw [hread.rest] at hrest
      apply hhyphen
      rw [show rest = _ from hrest]
      exact List.mem_append_right _ List.mem_cons_self

include hquiet

theorem readsPrice_comparison {amount : Amount} (op : Comparison)
    (hnumeral : amount.digits.IsNumeral) (hhyphen : '-' ∉ rest) :
    Place.ReadsPrice ⟨before, "price:".toList ++ (op.sign ++ amount.text ++ rest)⟩
      (.compare op amount.value)
      ⟨before ++ ("price:".toList ++ (op.sign ++ amount.text)), rest⟩ := by
  have hmark := readsMark before (op.sign ++ amount.text ++ rest)
  rw [List.append_assoc] at hmark ⊢
  have hsign : Place.ReadsSign ⟨before ++ "price:".toList, op.sign ++ (amount.text ++ rest)⟩
      (some op) ⟨before ++ "price:".toList ++ op.sign, amount.text ++ rest⟩ := ⟨rfl, rfl⟩
  rcases Amount.reads hnumeral (blocksNumeral_sign (before ++ "price:".toList) op)
    hquiet.ends with ⟨middle, hdollar, hread⟩
  have hend : before ++ ("price:".toList ++ (op.sign ++ amount.text)) =
      before ++ "price:".toList ++ op.sign ++ amount.text := by
    simp
  rw [hend]
  exact .comparison (.intro hmark (Place.readsBlanks_refl _) hsign (Place.readsBlanks_refl _)
    hdollar hread) (not_readsSecond hhyphen)

theorem readsPrice_range {low high : Amount} (hlow : low.digits.IsNumeral)
    (hhigh : high.digits.IsNumeral) :
    Place.ReadsPrice ⟨before, "price:".toList ++ (low.text ++ '-' :: high.text ++ rest)⟩
      (.between low.value high.value)
      ⟨before ++ ("price:".toList ++ (low.text ++ '-' :: high.text)), rest⟩ := by
  have hmark := readsMark before (low.text ++ '-' :: high.text ++ rest)
  rw [List.append_assoc, List.cons_append] at hmark ⊢
  have hseparates : Phrase.separates '-' = true := by decide
  have hcolon : blocksNumeral (before ++ "price:".toList) = false := by
    rw [blocksNumeral_append (by decide)]
    decide
  have hsign : Place.ReadsSign ⟨before ++ "price:".toList, low.text ++ '-' :: (high.text ++ rest)⟩
      none ⟨before ++ "price:".toList, low.text ++ '-' :: (high.text ++ rest)⟩ := rfl
  rcases Amount.reads hlow hcolon
    (Phrase.continuesNumber_separates hseparates (high.text ++ rest)) with
    ⟨middle, hlowDollar, hlowRead⟩
  have hhyphenRead : Place.Reads ⟨before ++ "price:".toList ++ low.text,
      '-' :: (high.text ++ rest)⟩ ['-']
      ⟨before ++ "price:".toList ++ low.text ++ ['-'], high.text ++ rest⟩ := ⟨rfl, rfl⟩
  rcases Amount.reads hhigh (Phrase.blocksNumeral_separates hseparates
    (before ++ "price:".toList ++ low.text)) hquiet.ends with ⟨middle', hhighDollar, hhighRead⟩
  have hend : before ++ ("price:".toList ++ (low.text ++ '-' :: high.text)) =
      before ++ "price:".toList ++ low.text ++ ['-'] ++ high.text := by
    simp
  rw [hend]
  exact .range (.intro hmark (Place.readsBlanks_refl _) hsign (Place.readsBlanks_refl _)
      hlowDollar hlowRead)
    (.intro (Place.readsBlanks_refl _) hhyphenRead (Place.readsBlanks_refl _) hhighDollar
      hhighRead)

end Marked

/-- Behind the mark a condition is read to its end, if no hyphen and no further digit follows. -/
theorem WritesAmounts.readsPrice {body : List Char} {condition : PricePredicate}
    (h : WritesAmounts body condition) (before : List Char) {rest : List Char}
    (hquiet : Quiet rest) (hhyphen : '-' ∉ rest) :
    Place.ReadsPrice ⟨before, "price:".toList ++ (body ++ rest)⟩ condition
      ⟨before ++ ("price:".toList ++ body), rest⟩ := by
  cases h with
  | comparison op hnumeral => exact readsPrice_comparison hquiet op hnumeral hhyphen
  | range hlow hhigh => exact readsPrice_range hquiet hlow hhigh

namespace Writes

variable {body : List Char} {condition : PricePredicate} (h : Writes body condition)

include h

theorem markedPrice (before : List Char) {rest : List Char} (hquiet : Quiet rest)
    (hhyphen : '-' ∉ rest) :
    Place.MarkedPrice ⟨before, "price:".toList ++ (body ++ rest)⟩ condition :=
  (h.amounts.readsPrice before hquiet hhyphen).markedPrice

theorem bare {before rest : List Char} (hbefore : blocksNumeral before = false)
    (hrest : continuesNumber rest = false) :
    Place.BareRange ⟨before, body ++ rest⟩ condition ∨
      Place.BareComparison ⟨before, body ++ rest⟩ condition ∧ '-' ∉ body := by
  have hgap : forall place : Place, place.ReadsGap place := fun place =>
    .intro (Place.readsBlanks_refl place) (Or.inl rfl) (Place.readsBlanks_refl place)
  cases h with
  | @comparison op value hvalue =>
      right
      rw [List.append_assoc]
      have hsign : Place.Reads ⟨before, op.sign ++ (value.text ++ rest)⟩ op.sign
          ⟨before ++ op.sign, value.text ++ rest⟩ := ⟨rfl, rfl⟩
      refine ⟨.intro hsign (hgap _) (hvalue.reads (blocksNumeral_sign before op) hrest), ?_⟩
      intro hmem
      rcases List.mem_append.mp hmem with hmem | hmem
      · have hnot : '-' ∉ op.sign := by cases op <;> decide
        exact hnot hmem
      · have hnumber := hvalue.isNumberChar hmem
        revert hnumber
        decide
  | @range low high hlow hhigh =>
      left
      rw [List.append_assoc, List.cons_append]
      have hseparates : Phrase.separates '-' = true := by decide
      have hhyphenRead : Place.Reads ⟨before ++ low.text, '-' :: (high.text ++ rest)⟩ ['-']
          ⟨before ++ low.text ++ ['-'], high.text ++ rest⟩ := ⟨rfl, rfl⟩
      exact .intro
        (hlow.reads hbefore (Phrase.continuesNumber_separates hseparates (high.text ++ rest)))
        (Place.readsBlanks_refl _) hhyphenRead (hgap _)
        (hhigh.reads (Phrase.blocksNumeral_separates hseparates (before ++ low.text)) hrest)

end Writes

end CatalogSearch
