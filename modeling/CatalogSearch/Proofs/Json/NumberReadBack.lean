import CatalogSearch.Json.Reader
import CatalogSearch.Proofs.Number.DecimalDigits
import CatalogSearch.Proofs.Number.ShortestDecimal
import CatalogSearch.Proofs.Text.Characters

/-!
# Written numbers are read back

An integer is read back unless it has too many digits.  The shortest text of a binary64 number
is read back in each of its layouts: with the point before, among and behind the digits, and
with an exponent.
-/

namespace CatalogSearch

open Text

namespace Json

def EndsNumber (rest : List Char) : Prop :=
  forall c : Char, rest.head? = some c ->
    c.isDigit = false ∧ c ≠ '.' ∧ c ≠ 'e' ∧ c ≠ 'E'

def EndsDigits (rest : List Char) : Prop :=
  forall c : Char, rest.head? = some c -> c.isDigit = false

theorem EndsNumber.endsDigits
    {rest : List Char} (h : EndsNumber rest) :
    EndsDigits rest := by
  intro c hhead
  exact (h c hhead).1

theorem endsDigits_cons
    {c : Char} {rest : List Char} (h : c.isDigit = false) :
    EndsDigits (c :: rest) := by
  intro d hhead
  rw [← Option.some.inj hhead]
  exact h

theorem endsNumber_nil :
    EndsNumber [] := by
  intro c hhead
  cases hhead

/-!
## The parts of a number
-/

theorem spanDigits_append
    {digits rest : List Char} (hdigits : AllDigits digits) (hrest : EndsDigits rest) :
    spanDigits (digits ++ rest) = (digits, rest) := by
  induction digits with
  | nil =>
      cases rest with
      | nil => rfl
      | cons c rest =>
          have hc : c.isDigit = false := hrest c rfl
          simp [spanDigits, hc]
  | cons c digits ih =>
      have htail := ih hdigits.tail
      have hc : c.isDigit = true := hdigits.head
      simp only [spanDigits, Prod.mk.injEq] at htail ⊢
      rw [List.cons_append, List.takeWhile_cons_of_pos hc, List.dropWhile_cons_of_pos hc,
        htail.1, htail.2]
      exact ⟨rfl, rfl⟩

def WholePart (digits : List Char) : Prop :=
  AllDigits digits ∧
    (digits = ['0'] ∨ exists c rest, digits = c :: rest ∧ c ≠ '0')

theorem wholePart_zero :
    WholePart ['0'] :=
  ⟨AllDigits.zeros 1, Or.inl rfl⟩

theorem wholePart_decimalDigits (n : Nat) :
    WholePart (decimalDigits n) := by
  constructor
  · exact decimalDigits_allDigits n
  · by_cases hzero : n = 0
    · left
      rw [hzero]
      exact decimalDigits_zero
    · right
      exact decimalDigits_cons hzero

theorem readWhole_append
    {digits rest : List Char} (hdigits : WholePart digits) (hrest : EndsDigits rest) :
    readWhole (digits ++ rest) = some (digits, rest) := by
  rcases hdigits with ⟨hall, hzero | ⟨c, more, hcons, hne⟩⟩
  · rw [hzero]
    rfl
  · have hspan := spanDigits_append hall hrest
    rw [hcons] at hspan hall ⊢
    have hdigit : c.isDigit = true := hall.head
    rw [List.cons_append] at hspan ⊢
    unfold readWhole
    split
    · rename_i heq
      injection heq with hc _
      exact absurd hc hne
    · rename_i heq
      injection heq with hc htail
      rw [← hc, ← htail, if_pos hdigit, hspan]
    · rename_i heq
      cases heq

theorem readPoint_append
    {fraction rest : List Char} (hne : fraction ≠ []) (hdigits : AllDigits fraction)
    (hrest : EndsDigits rest) :
    readPoint ('.' :: (fraction ++ rest)) = some (fraction, rest) := by
  have hspan := spanDigits_append hdigits hrest
  simp only [readPoint, hspan]
  simp [hne]

theorem readPoint_none
    {rest : List Char} (h : forall c : Char, rest.head? = some c -> c ≠ '.') :
    readPoint rest = none := by
  unfold readPoint
  split
  · rename_i body
    exact absurd rfl (h '.' rfl)
  · rfl

theorem readPower_none
    {rest : List Char} (h : EndsNumber rest) :
    readPower rest = none := by
  cases rest with
  | nil => rfl
  | cons c rest =>
      rcases h c rfl with ⟨_, _, hlower, hupper⟩
      simp [readPower, hlower, hupper]

def powerSign (power : Int) : Char :=
  if power < 0 then '-' else '+'

theorem readPower_append
    {rest : List Char} (power : Int) (length : Nat) (hrest : EndsDigits rest) :
    readPower ('e' :: powerSign power ::
        (padZeros length (decimalDigits power.natAbs) ++ rest)) =
      some (power, rest) := by
  have hall := padZeros_allDigits (decimalDigits_allDigits power.natAbs) length
  have hspan := spanDigits_append hall hrest
  have hvalue : digitsValue (padZeros length (decimalDigits power.natAbs)) = power.natAbs := by
    rw [digitsValue_padZeros (decimalDigits_allDigits _), digitsValue_decimalDigits]
  have hne : padZeros length (decimalDigits power.natAbs) ≠ [] := by
    intro hnil
    exact decimalDigits_ne_nil _ (List.append_eq_nil_iff.mp hnil).2
  unfold powerSign
  by_cases hneg : power < 0
  · rw [if_pos hneg]
    have habs : -(power.natAbs : Int) = power := by omega
    simp only [readPower, splitSign, hspan, hvalue, habs]
    simp [hne]
  · rw [if_neg hneg]
    have habs : (power.natAbs : Int) = power := by omega
    simp only [readPower, splitSign, hspan, hvalue, habs]
    simp [hne]

end Json

namespace WideJson

open Json

/-!
## Numbers without a sign
-/

theorem readUnsigned_integer
    {digits rest : List Char} (negative : Bool) (hdigits : WholePart digits)
    (hrest : EndsNumber rest) :
    readUnsigned negative (digits ++ rest) =
      if digitLimit < digits.length then .error (.tooManyDigits digits.length)
      else .ok (.int (if negative then -(digitsValue digits : Int) else digitsValue digits),
        rest) := by
  have hwhole := readWhole_append hdigits hrest.endsDigits
  have hpoint := @readPoint_none rest (fun c hhead => (hrest c hhead).2.1)
  have hpower := readPower_none hrest
  unfold readUnsigned
  rw [hwhole]
  simp only [hpoint, hpower]

theorem readUnsigned_point
    {whole fraction rest : List Char} (negative : Bool) (hwhole : WholePart whole)
    (hne : fraction ≠ []) (hfraction : AllDigits fraction) (hrest : EndsNumber rest) :
    readUnsigned negative (whole ++ '.' :: (fraction ++ rest)) =
      .ok (.float (.ofDecimal negative (digitsValue (whole ++ fraction)) (-fraction.length)),
        rest) := by
  have hread := readWhole_append hwhole
    (@endsDigits_cons '.' (fraction ++ rest) (by decide))
  have hpoint := readPoint_append hne hfraction hrest.endsDigits
  have hpower := readPower_none hrest
  unfold readUnsigned
  rw [hread]
  simp only [hpoint, hpower, Option.getD_none]
  simp

theorem readUnsigned_power
    {whole rest : List Char} (negative : Bool) (power : Int) (length : Nat)
    (hwhole : WholePart whole) (hrest : EndsNumber rest) :
    readUnsigned negative (whole ++ 'e' :: powerSign power ::
        (padZeros length (decimalDigits power.natAbs) ++ rest)) =
      .ok (.float (.ofDecimal negative (digitsValue whole) power), rest) := by
  have hpower := readPower_append power length hrest.endsDigits
  generalize htail : 'e' :: powerSign power ::
    (padZeros length (decimalDigits power.natAbs) ++ rest) = tail at hpower ⊢
  have hends : EndsDigits tail := by
    rw [← htail]
    exact endsDigits_cons (by decide)
  have hpoint : readPoint tail = none := by
    rw [← htail]
    rfl
  have hread := readWhole_append hwhole hends
  unfold readUnsigned
  rw [hread]
  simp only [hpoint, hpower]

theorem readUnsigned_point_power
    {whole fraction rest : List Char} (negative : Bool) (power : Int) (length : Nat)
    (hwhole : WholePart whole) (hne : fraction ≠ []) (hfraction : AllDigits fraction)
    (hrest : EndsNumber rest) :
    readUnsigned negative (whole ++ '.' :: (fraction ++ 'e' :: powerSign power ::
        (padZeros length (decimalDigits power.natAbs) ++ rest))) =
      .ok (.float (.ofDecimal negative (digitsValue (whole ++ fraction))
        (power - fraction.length)), rest) := by
  have hpower := readPower_append power length hrest.endsDigits
  generalize htail : 'e' :: powerSign power ::
    (padZeros length (decimalDigits power.natAbs) ++ rest) = tail at hpower ⊢
  have hends : EndsDigits tail := by
    rw [← htail]
    exact endsDigits_cons (by decide)
  have hread := readWhole_append hwhole
    (@endsDigits_cons '.' (fraction ++ tail) (by decide))
  have hpoint := readPoint_append hne hfraction hends
  unfold readUnsigned
  rw [hread]
  simp only [hpoint, hpower, Option.getD_some]

/-!
## Layouts of the shortest decimal
-/

theorem readUnsigned_placePoint
    {size : Magnitude} {point : Nat} {exponent : Int} {rest : List Char} (negative : Bool)
    (hpoint : point ≠ 0) (hhigh : exponent ≤ 310)
    (hvalue : Binary64.ofDecimal negative point exponent = .signed negative size)
    (hrest : EndsNumber rest) :
    readUnsigned negative (Binary64.placePoint (decimalDigits point)
        (exponent + (decimalDigits point).length) ++ rest) =
      .ok (.float (.signed negative size), rest) := by
  rcases Binary64.placePoint_split negative hpoint hhigh with ⟨whole, fraction, hsplit, hplaced⟩
  have hwhole : WholePart whole := ⟨hplaced.whole_digits, hplaced.whole_opens⟩
  have hread := readUnsigned_point negative hwhole hplaced.fraction_ne_nil
    hplaced.fraction_digits hrest
  rw [hplaced.value, hvalue] at hread
  rw [hsplit]
  simpa using hread

theorem readUnsigned_scientific
    {size : Magnitude} {point : Nat} {exponent : Int} {rest : List Char}
    (layout : Binary64.ShortestLayout) (negative : Bool) (hpoint : point ≠ 0)
    (hvalue : Binary64.ofDecimal negative point exponent = .signed negative size)
    (hrest : EndsNumber rest) :
    readUnsigned negative (Binary64.scientific layout (decimalDigits point)
        (exponent + (decimalDigits point).length - 1) ++ rest) =
      .ok (.float (.signed negative size), rest) := by
  have hall := decimalDigits_allDigits point
  have hdigitsValue := digitsValue_decimalDigits point
  rcases decimalDigits_cons hpoint with ⟨first, more, hcons, hfirst⟩
  rw [hcons] at hall hdigitsValue ⊢
  have hwhole : WholePart [first] :=
    ⟨AllDigits.nil.cons hall.head, Or.inr ⟨first, [], rfl, hfirst⟩⟩
  cases more with
  | nil =>
      have hread := readUnsigned_power negative
        (exponent + ([first].length : Nat) - 1) layout.exponentDigits hwhole hrest
      have hpower : exponent + (([first].length : Nat) : Int) - 1 = exponent := by simp
      rw [hpower] at hread ⊢
      rw [hdigitsValue, hvalue] at hread
      simpa [Binary64.scientific, powerSign] using hread
  | cons second more =>
      have hread := readUnsigned_point_power negative
        (exponent + ((first :: second :: more).length : Nat) - 1) layout.exponentDigits hwhole
        (List.cons_ne_nil second more) hall.tail hrest
      have hpower : exponent + (((first :: second :: more).length : Nat) : Int) - 1 -
          ((second :: more).length : Nat) = exponent := by
        simp only [List.length_cons]
        omega
      have hdigits : [first] ++ second :: more = first :: second :: more := rfl
      rw [hpower, hdigits, hdigitsValue, hvalue] at hread
      simpa [Binary64.scientific, powerSign] using hread

theorem readUnsigned_magnitudeText
    {size : Magnitude} {rest : List Char} (layout : Binary64.ShortestLayout) (negative : Bool)
    (hfinite : size.isFinite = true) (hrest : EndsNumber rest) :
    readUnsigned negative (Binary64.magnitudeText layout size ++ rest) =
      .ok (.float (.signed negative size), rest) := by
  unfold Binary64.magnitudeText
  by_cases hzero : size.rank = 0
  · rw [if_pos hzero]
    have hsize : size = .zero := by
      cases size with
      | mk rank rank_le =>
          simp only at hzero
          subst hzero
          rfl
    have hread := readUnsigned_point negative wholePart_zero (List.cons_ne_nil '0' [])
      (AllDigits.zeros 1) hrest
    rw [hsize]
    exact hread
  · rw [if_neg hzero]
    have hrank : 0 < size.rank := Nat.pos_of_ne_zero hzero
    have hfits := Binary64.shortestDecimal_fits hrank hfinite
    have hvalue := Binary64.ofDecimal_shortestDecimal negative hrank hfinite
    rcases hdecimal : Binary64.shortestDecimal size with ⟨point, exponent⟩
    rw [hdecimal] at hfits hvalue
    rcases hfits with ⟨hpoint, _, _, hhigh⟩
    simp only
    split
    · have hread := readUnsigned_placePoint negative hpoint hhigh hvalue hrest
      rw [Int.sub_add_cancel]
      exact hread
    · exact readUnsigned_scientific layout negative hpoint hvalue hrest

/-!
## Numbers with a sign
-/

def OpensWithDigit (text : List Char) : Prop :=
  exists c rest, text = c :: rest ∧ c.isDigit = true

theorem OpensWithDigit.append
    {text : List Char} (h : OpensWithDigit text) (rest : List Char) :
    OpensWithDigit (text ++ rest) := by
  rcases h with ⟨c, more, hcons, hc⟩
  exists c, more ++ rest
  constructor
  · rw [hcons, List.cons_append]
  · exact hc

theorem opensWithDigit_decimalDigits (n : Nat) :
    OpensWithDigit (decimalDigits n) := by
  cases hdigits : decimalDigits n with
  | nil => exact absurd hdigits (decimalDigits_ne_nil n)
  | cons c rest =>
      have hall := decimalDigits_allDigits n
      rw [hdigits] at hall
      exact ⟨c, rest, rfl, hall.head⟩

theorem opensWithDigit_magnitudeText (layout : Binary64.ShortestLayout) (size : Magnitude) :
    OpensWithDigit (Binary64.magnitudeText layout size) := by
  unfold Binary64.magnitudeText
  split
  · exact ⟨'0', ['.', '0'], rfl, by decide⟩
  · rcases Binary64.shortestDecimal size with ⟨point, exponent⟩
    rcases opensWithDigit_decimalDigits point with ⟨c, rest, hcons, hc⟩
    simp only [hcons]
    split
    · unfold Binary64.placePoint
      split
      · exact ⟨'0', _, rfl, by decide⟩
      · split
        · exact ⟨c, _, rfl, hc⟩
        · rename_i hpositive _
          generalize hplace : (exponent + ((c :: rest).length : Nat) - 1 + 1).toNat = place
          have hplaceSucc : place = place - 1 + 1 := by omega
          rw [hplaceSucc, List.take_succ_cons]
          exact ⟨c, _, rfl, hc⟩
    · unfold Binary64.scientific
      cases rest with
      | nil => exact ⟨c, _, rfl, hc⟩
      | cons second more => exact ⟨c, _, rfl, hc⟩

theorem readNumeral_digit
    {text : List Char} (h : OpensWithDigit text) :
    readNumeral text = readUnsigned false text := by
  rcases h with ⟨c, rest, hcons, hc⟩
  subst hcons
  unfold readNumeral
  split
  · rename_i heq
    injection heq with hchar _
    subst hchar
    cases hc
  · rfl

theorem readNumeral_integerText
    {rest : List Char} (value : Int) (hrest : EndsNumber rest) :
    readNumeral (integerText value ++ rest) =
      if digitLimit < (decimalDigits value.natAbs).length then
        .error (.tooManyDigits (decimalDigits value.natAbs).length)
      else .ok (.int value, rest) := by
  have hopens := (opensWithDigit_decimalDigits value.natAbs).append rest
  have hwhole := wholePart_decimalDigits value.natAbs
  unfold integerText
  by_cases hneg : value < 0
  · have habs : -(value.natAbs : Int) = value := by omega
    rw [if_pos hneg, List.cons_append, readNumeral,
      readUnsigned_integer true hwhole hrest, digitsValue_decimalDigits, if_pos rfl, habs]
  · have habs : (value.natAbs : Int) = value := by omega
    have hfalse : ¬ false = true := Bool.false_ne_true
    rw [if_neg hneg, readNumeral_digit hopens, readUnsigned_integer false hwhole hrest,
      digitsValue_decimalDigits, if_neg hfalse, habs]

theorem readNumeral_shortestText
    {size : Magnitude} {rest : List Char} (layout : Binary64.ShortestLayout) (negative : Bool)
    (hfinite : size.isFinite = true) (hrest : EndsNumber rest) :
    readNumeral (Binary64.shortestText layout (.signed negative size) ++ rest) =
      .ok (.float (.signed negative size), rest) := by
  have hopens := (opensWithDigit_magnitudeText layout size).append rest
  simp only [Binary64.shortestText, hfinite, if_true]
  cases negative with
  | true => exact readUnsigned_magnitudeText layout true hfinite hrest
  | false =>
      have hread := readUnsigned_magnitudeText layout false hfinite hrest
      rw [← readNumeral_digit hopens] at hread
      simpa using hread

/-!
## Runs of number characters
-/

def NumberChars (text : List Char) : Prop :=
  forall c : Char, c ∈ text -> isNumeralChar c = true

theorem NumberChars.append {text rest : List Char} (htext : NumberChars text)
    (hrest : NumberChars rest) : NumberChars (text ++ rest) := by
  intro c hmem
  rcases List.mem_append.mp hmem with h | h
  · exact htext c h
  · exact hrest c h

theorem NumberChars.cons {c : Char} {text : List Char} (hc : isNumeralChar c = true)
    (htext : NumberChars text) : NumberChars (c :: text) := by
  intro d hmem
  rcases List.mem_cons.mp hmem with rfl | h
  · exact hc
  · exact htext d h

theorem numberChars_of_allDigits {digits : List Char} (h : AllDigits digits) :
    NumberChars digits := by
  intro c hmem
  rw [isNumeralChar, h c hmem, Bool.true_or]

theorem numberChars_integerText (value : Int) : NumberChars (integerText value) := by
  have hdigits := numberChars_of_allDigits (decimalDigits_allDigits value.natAbs)
  unfold integerText
  split
  · exact hdigits.cons (by decide)
  · exact hdigits

theorem numberChars_scientific (layout : Binary64.ShortestLayout) {digits : List Char}
    (exponent : Int) (h : AllDigits digits) :
    NumberChars (Binary64.scientific layout digits exponent) := by
  have hpower := numberChars_of_allDigits
    (padZeros_allDigits (decimalDigits_allDigits exponent.natAbs) layout.exponentDigits)
  have hmarked : NumberChars ('e' :: (if exponent < 0 then '-' else '+') ::
      padZeros layout.exponentDigits (decimalDigits exponent.natAbs)) := by
    refine (hpower.cons ?_).cons (by decide)
    split
    · decide
    · decide
  unfold Binary64.scientific
  match digits, h with
  | [], _ => exact hmarked
  | [first], h => exact (numberChars_of_allDigits h).append hmarked
  | first :: second :: rest, h =>
      have hmore := (numberChars_of_allDigits h.tail).cons (show isNumeralChar '.' = true by decide)
      exact (hmore.cons (numberChars_of_allDigits h first List.mem_cons_self)).append hmarked

theorem numberChars_magnitudeText {size : Magnitude} (layout : Binary64.ShortestLayout)
    (hfinite : size.isFinite = true) :
    NumberChars (Binary64.magnitudeText layout size) := by
  unfold Binary64.magnitudeText
  split
  · intro c hmem
    exact Text.forall_mem_of_check hmem (by decide)
  · rename_i hrank
    have hfits := Binary64.shortestDecimal_fits (Nat.pos_of_ne_zero hrank) hfinite
    rcases hdecimal : Binary64.shortestDecimal size with ⟨point, exponent⟩
    rw [hdecimal] at hfits
    rcases hfits with ⟨hpoint, _, _, hhigh⟩
    simp only
    split
    · rcases Binary64.placePoint_split true hpoint hhigh with ⟨whole, fraction, hsplit, hplaced⟩
      rw [Int.sub_add_cancel, hsplit]
      exact (numberChars_of_allDigits hplaced.whole_digits).append
        ((numberChars_of_allDigits hplaced.fraction_digits).cons (by decide))
    · exact numberChars_scientific layout _ (decimalDigits_allDigits point)

theorem numberChars_shortestText {size : Magnitude} (layout : Binary64.ShortestLayout)
    (negative : Bool) (hfinite : size.isFinite = true) :
    NumberChars (Binary64.shortestText layout (.signed negative size)) := by
  have hmagnitude := numberChars_magnitudeText layout hfinite
  simp only [Binary64.shortestText, hfinite, if_true]
  cases negative with
  | true => exact hmagnitude.cons (by decide)
  | false => exact hmagnitude

def StopsNumber (rest : WideText) : Prop :=
  forall c : Char, rest.head? = some (.char c) -> isNumeralChar c = false

theorem stopsNumber_nil : StopsNumber [] := by
  intro c hhead
  cases hhead

theorem stopsNumber_cons {c : Char} (rest : WideText) (h : isNumeralChar c = false) :
    StopsNumber (.char c :: rest) := by
  intro d hhead
  injection hhead with hpoint
  injection hpoint with hchar
  rw [← hchar]
  exact h

theorem spanNumber_append {text : List Char} {rest : WideText} (htext : NumberChars text)
    (hrest : StopsNumber rest) :
    spanNumber (wide text ++ rest) = (text, rest) := by
  induction text with
  | nil =>
      match rest, hrest with
      | [], _ => rfl
      | .surrogate place :: rest, _ => rfl
      | .char c :: rest, hrest =>
          rw [wide_nil, List.nil_append, spanNumber, if_neg]
          rw [hrest c rfl]
          exact Bool.false_ne_true
  | cons c text ih =>
      have htail : NumberChars text := fun d hmem => htext d (List.mem_cons_of_mem c hmem)
      rw [wide_cons, List.cons_append, spanNumber, if_pos (htext c List.mem_cons_self), ih htail]

end WideJson

end CatalogSearch
