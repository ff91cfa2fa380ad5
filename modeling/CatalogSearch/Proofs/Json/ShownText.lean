import CatalogSearch.Json.Shown
import CatalogSearch.Proofs.Json.NumberReadBack
import CatalogSearch.Proofs.Text.Characters

/-!
# Shown numbers are told apart

The text of a number is read back as that number or as none at all, so that two numbers shown
alike are equal; and no number is shown like a value of another kind, a string aside.
-/

namespace CatalogSearch

namespace Json

open WideJson

def isNumber : Json -> Bool
  | .bool _ => true
  | .int _ => true
  | .float _ => true
  | _ => false

def isString : Json -> Bool
  | .string _ => true
  | _ => false

theorem isString_of_isNumber {value : Json} (h : value.isNumber = true) :
    value.isString = false := by
  cases value with
  | string text => cases h
  | _ => rfl

/-!
## Integers
-/

theorem integerText_injective
    {m n : Int} (h : integerText m = integerText n) :
    m = n := by
  have hminus : forall (k : Nat) (rest : List Char), '-' :: rest ≠ decimalDigits k := by
    intro k rest heq
    have hall := decimalDigits_allDigits k
    rw [← heq] at hall
    exact absurd hall.head (by decide)
  unfold integerText at h
  by_cases hm : m < 0
  · rw [if_pos hm] at h
    by_cases hn : n < 0
    · rw [if_pos hn] at h
      have habs := decimalDigits_injective (List.tail_eq_of_cons_eq h)
      omega
    · rw [if_neg hn] at h
      exact absurd h (hminus _ _)
  · rw [if_neg hm] at h
    by_cases hn : n < 0
    · rw [if_pos hn] at h
      exact absurd h.symm (hminus _ _)
    · rw [if_neg hn] at h
      have habs := decimalDigits_injective h
      omega

/-- What reading the text of an integer gives: the integer, or that it is too long. -/
theorem readNumeral_integer_cases (n : Int) :
    (exists count, readNumeral (integerText n) = .error (.tooManyDigits count)) ∨
      readNumeral (integerText n) = .ok (.int n, []) := by
  have hread := readNumeral_integerText n endsNumber_nil
  rw [List.append_nil] at hread
  rw [hread]
  split
  · exact Or.inl ⟨_, rfl⟩
  · exact Or.inr rfl

/-!
## Binary64 numbers
-/

theorem readNumeral_finite
    {x : Binary64} (h : x.isFinite = true) :
    readNumeral x.text = .ok (.float x, []) := by
  cases x with
  | nan => cases h
  | signed negative size =>
      have hread := readNumeral_shortestText Binary64.plainLayout negative h endsNumber_nil
      rw [List.append_nil] at hread
      exact hread

theorem text_not_finite
    {x : Binary64} (h : x.isFinite = false) :
    (x = .nan ∧ x.text = "nan".toList) ∨
      (x = .signed false .infinite ∧ x.text = "inf".toList) ∨
      (x = .signed true .infinite ∧ x.text = "-inf".toList) := by
  cases x with
  | nan => exact Or.inl ⟨rfl, rfl⟩
  | signed negative size =>
      have hinfinite : size = .infinite := Magnitude.eq_infinite_of_not_isFinite h
      subst hinfinite
      cases negative with
      | false => exact Or.inr (Or.inl ⟨rfl, rfl⟩)
      | true => exact Or.inr (Or.inr ⟨rfl, rfl⟩)

theorem readNumeral_not_finite
    {x : Binary64} (h : x.isFinite = false) :
    readNumeral x.text = .error .malformed := by
  rcases text_not_finite h with ⟨_, htext⟩ | ⟨_, htext⟩ | ⟨_, htext⟩
  · rw [htext]
    rfl
  · rw [htext]
    rfl
  · rw [htext]
    rfl

/-- Different binary64 numbers have different texts; the two zeros count as different. -/
theorem text_injective
    {x y : Binary64} (h : x.text = y.text) :
    x = y := by
  cases hx : x.isFinite with
  | true =>
      have hreadX := readNumeral_finite hx
      cases hy : y.isFinite with
      | true =>
          have hreadY := readNumeral_finite hy
          rw [h, hreadY] at hreadX
          injection hreadX with hpair
          injection hpair with hfloat _
          injection hfloat with hvalue
          exact hvalue.symm
      | false =>
          rw [h, readNumeral_not_finite hy] at hreadX
          cases hreadX
  | false =>
      have hreadX := readNumeral_not_finite hx
      cases hy : y.isFinite with
      | true =>
          rw [h, readNumeral_finite hy] at hreadX
          cases hreadX
      | false =>
          rcases text_not_finite hx with ⟨hvalueX, htextX⟩ | ⟨hvalueX, htextX⟩ | ⟨hvalueX, htextX⟩
          all_goals
            rcases text_not_finite hy with
              ⟨hvalueY, htextY⟩ | ⟨hvalueY, htextY⟩ | ⟨hvalueY, htextY⟩
          all_goals first
            | (rw [htextX, htextY] at h
               exact absurd h (by decide))
            | rw [hvalueX, hvalueY]

theorem integerText_ne_text (n : Int) (x : Binary64) :
    integerText n ≠ x.text := by
  intro heq
  have hinteger := readNumeral_integer_cases n
  have hbinary : readNumeral x.text = .ok (.float x, []) ∨
      readNumeral x.text = .error .malformed := by
    cases hx : x.isFinite with
    | true => exact Or.inl (readNumeral_finite hx)
    | false => exact Or.inr (readNumeral_not_finite hx)
  rw [heq] at hinteger
  rcases hbinary with hread | hread
  · rw [hread] at hinteger
    rcases hinteger with ⟨_, hlong⟩ | hsame
    · cases hlong
    · cases hsame
  · rw [hread] at hinteger
    rcases hinteger with ⟨_, hlong⟩ | hsame
    · cases hlong
    · cases hsame

/-!
## First characters
-/

def OpensNumber (text : List Char) : Prop :=
  exists c rest, text = c :: rest ∧ (c.isDigit = true ∨ c ∈ ['-', 'n', 'i'])

theorem opensNumber_integerText (n : Int) :
    OpensNumber (integerText n) := by
  unfold integerText
  split
  · exact ⟨'-', _, rfl, Or.inr (by decide)⟩
  · rcases opensWithDigit_decimalDigits n.natAbs with ⟨c, rest, hcons, hc⟩
    exact ⟨c, rest, hcons, Or.inl hc⟩

theorem opensNumber_text (x : Binary64) :
    OpensNumber x.text := by
  cases hx : x.isFinite with
  | false =>
      rcases text_not_finite hx with ⟨_, htext⟩ | ⟨_, htext⟩ | ⟨_, htext⟩
      · exact ⟨'n', _, htext, Or.inr (by decide)⟩
      · exact ⟨'i', _, htext, Or.inr (by decide)⟩
      · exact ⟨'-', _, htext, Or.inr (by decide)⟩
  | true =>
      cases x with
      | nan => cases hx
      | signed negative size =>
          have hfinite : size.isFinite = true := hx
          simp only [Binary64.text, Binary64.shortestText, hfinite, if_true]
          cases negative with
          | true => exact ⟨'-', _, rfl, Or.inr (by decide)⟩
          | false =>
              rcases opensWithDigit_magnitudeText Binary64.plainLayout size with
                ⟨c, rest, hcons, hc⟩
              exact ⟨c, rest, hcons, Or.inl hc⟩

theorem OpensNumber.ne_cons
    {text rest : List Char} {c : Char} (h : OpensNumber text)
    (hc : c ∈ ['N', 'T', 'F', '[', '\x7b']) :
    text ≠ c :: rest := by
  intro heq
  rcases h with ⟨d, more, hcons, hd⟩
  rw [hcons] at heq
  injection heq with hchar _
  subst hchar
  have hforeign : ¬ (d.isDigit = true ∨ d ∈ ['-', 'n', 'i']) :=
    Text.forall_mem_of_check hc (by decide)
  exact hforeign hd

/-- No value but an integer, a binary64 number or a string is shown like one of the first two. -/
theorem OpensNumber.real_of_shown
    {text : List Char} {value : Json} (h : OpensNumber text) (hvalue : value.isString = false)
    (hshown : text = value.shown) :
    (exists n : Int, value = .int n) ∨ exists x : Binary64, value = .float x := by
  cases value with
  | null => exact absurd hshown (h.ne_cons (by decide))
  | bool value =>
      cases value with
      | true => exact absurd hshown (h.ne_cons (by decide))
      | false => exact absurd hshown (h.ne_cons (by decide))
  | int n => exact Or.inl ⟨n, rfl⟩
  | float x => exact Or.inr ⟨x, rfl⟩
  | string text => cases hvalue
  | array items => exact absurd hshown (h.ne_cons (by decide))
  | object members => exact absurd hshown (h.ne_cons (by decide))

theorem OpensNumber.ne_shown_bool
    {text : List Char} (h : OpensNumber text) (value : Bool) :
    text ≠ Json.shown (.bool value) := by
  intro hshown
  rcases h.real_of_shown rfl hshown with ⟨n, hreal⟩ | ⟨x, hreal⟩
  · cases hreal
  · cases hreal

/-!
## Shown values
-/

theorem bool_shown_injective
    {truth : Bool} {value : Json} (hvalue : value.isString = false)
    (h : Json.shown (.bool truth) = value.shown) :
    .bool truth = value := by
  cases value with
  | int n => exact absurd h.symm ((opensNumber_integerText n).ne_shown_bool truth)
  | float x => exact absurd h.symm ((opensNumber_text x).ne_shown_bool truth)
  | string text => cases hvalue
  | bool other =>
      cases truth with
      | true =>
          cases other with
          | true => rfl
          | false => cases h
      | false =>
          cases other with
          | true => cases h
          | false => rfl
  | null | array items | object members =>
      cases truth with
      | true => cases h
      | false => cases h

/-- A number that is shown like a value other than a string is that value. -/
theorem shown_injective
    {number value : Json} (hnumber : number.isNumber = true) (hvalue : value.isString = false)
    (h : number.shown = value.shown) :
    number = value := by
  cases number with
  | null => cases hnumber
  | string text => cases hnumber
  | array items => cases hnumber
  | object members => cases hnumber
  | int n =>
      rcases (opensNumber_integerText n).real_of_shown hvalue h with ⟨m, rfl⟩ | ⟨x, rfl⟩
      · rw [integerText_injective h]
      · exact absurd h (integerText_ne_text n x)
  | float x =>
      rcases (opensNumber_text x).real_of_shown hvalue h with ⟨m, rfl⟩ | ⟨y, rfl⟩
      · exact absurd h.symm (integerText_ne_text m x)
      · rw [text_injective h]
  | bool truth => exact bool_shown_injective hvalue h

end Json

end CatalogSearch
