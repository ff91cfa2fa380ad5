import CatalogSearch.Proofs.Query.Hits
import CatalogSearch.Proofs.Query.LetterForms
import CatalogSearch.Proofs.Text.Digits
import CatalogSearch.Query.Intent

/-!
# Hits of the phrases

Every price phrase shows a digit, and no sort phrase does.
-/

namespace CatalogSearch

open Text

namespace Pattern

variable {α β : Type}

def Shows (shown : Char -> Prop) (pattern : Pattern α) : Prop :=
  forall (prev : Option Char) (text : List Char) (hit : Hit α),
    pattern prev text = some hit -> exists c : Char, c ∈ hit.text ∧ shown c

section Shows

variable {shown : Char -> Prop}

theorem Shows.bind_left
    {first : Pattern α} (h : Shows shown first) (next : α -> Pattern β) :
    Shows shown (first >>= next) := by
  intro prev text hit hhit
  rcases bind_parts hhit with ⟨lead, last, hlead, _, _, htext, _⟩
  rcases h _ _ lead hlead with ⟨c, hmem, hc⟩
  rw [htext]
  exact ⟨c, List.mem_append_left _ hmem, hc⟩

theorem Shows.bind_right
    {first : Pattern α} {next : α -> Pattern β}
    (h : forall value : α, Shows shown (next value)) :
    Shows shown (first >>= next) := by
  intro prev text hit hhit
  rcases bind_parts hhit with ⟨lead, last, _, hlast, _, htext, _⟩
  rcases h lead.value _ _ last hlast with ⟨c, hmem, hc⟩
  rw [htext]
  exact ⟨c, List.mem_append_right _ hmem, hc⟩

theorem Shows.map
    {pattern : Pattern α} (h : Shows shown pattern) (f : α -> β) :
    Shows shown (f <$> pattern) :=
  h.bind_left fun value => pure (f value)

end Shows

end Pattern

namespace Phrase

open Pattern

/-!
## Price phrases
-/

theorem shows_amount :
    Shows (fun c => isDigit c = true) amount := by
  have hwhole : Shows (fun c => isDigit c = true) (someWhere isDigit) := by
    intro prev text hit hhit
    rcases someWhere_eq_some.mp hhit with ⟨hne, heq⟩
    rcases List.exists_mem_of_ne_nil _ hne with ⟨c, hmem⟩
    rw [heq]
    exact ⟨c, hmem, mem_takeWhile hmem⟩
  exact Shows.bind_right fun _ => hwhole.bind_left _

theorem covers_amount :
    Covers (fun _ => True) amount := by
  have hchar : forall class? : Char -> Bool, Covers (fun _ => True) (charWhere class?) :=
    fun _ => covers_charWhere fun _ _ => trivial
  have hdecimals : Covers (fun _ => True) decimals :=
    (hchar _).bind fun _ => (hchar _).bind fun _ => (hchar _).perhaps.bind fun _ => covers_pure _
  have hnumeral : Covers (fun _ => True) numeral :=
    (covers_someWhere fun _ _ => trivial).bind fun _ => hdecimals.perhaps.bind fun _ =>
      covers_pure _
  exact ((hchar _).perhaps.bind fun _ => covers_pure _).bind fun _ => hnumeral

structure IsPricePhrase {α : Type} (pattern : Pattern α) : Prop where
  covers : Covers (fun _ => True) pattern
  shows : Shows (fun c => isDigit c = true) pattern

theorem IsPricePhrase.map
    {α β : Type} {pattern : Pattern α} (h : IsPricePhrase pattern) (f : α -> β) :
    IsPricePhrase (f <$> pattern) :=
  ⟨h.covers.map f, h.shows.map f⟩

theorem covers_anyWord (text : String) :
    Covers (fun _ => True) (word text) :=
  covers_word fun _ _ _ _ => trivial

theorem covers_anyBlanks :
    Covers (fun _ => True) someBlanks :=
  covers_someBlanks fun _ _ => trivial

theorem isPricePhrase_wordsThenAmount (words : List String) :
    IsPricePhrase (wordsThenAmount words) := by
  have hleading : forall list : List String,
      Covers (fun _ => True) (wordsThenAmount.leading list) := by
    intro list
    induction list with
    | nil => exact covers_pure ()
    | cons next list ih =>
        exact (covers_anyWord next).bind fun _ => covers_anyBlanks.bind fun _ => ih
  constructor
  · exact covers_boundary.bind fun _ => (hleading words).bind fun _ => covers_amount
  · exact Shows.bind_right fun _ => Shows.bind_right fun _ => shows_amount

theorem isPricePhrase_amountThenWords (words : List String) :
    IsPricePhrase (amountThenWords words) := by
  have htrailing : forall list : List String,
      Covers (fun _ => True) (amountThenWords.trailing list) := by
    intro list
    induction list with
    | nil => exact covers_pure ()
    | cons next list ih =>
        exact covers_anyBlanks.bind fun _ => (covers_anyWord next).bind fun _ => ih
  constructor
  · exact covers_amount.bind fun _ => (htrailing words).bind fun _ =>
      covers_boundary.bind fun _ => covers_pure _
  · exact shows_amount.bind_left _

theorem isPricePhrase_amountsAround (joint : String) :
    IsPricePhrase (amountsAround joint) := by
  constructor
  · exact covers_amount.bind fun _ => covers_anyBlanks.bind fun _ =>
      (covers_anyWord joint).bind fun _ => covers_anyBlanks.bind fun _ =>
        covers_amount.bind fun _ => covers_pure _
  · exact shows_amount.bind_left _

theorem isPricePhrase_amountsAroundHyphen :
    IsPricePhrase amountsAroundHyphen := by
  have hblanks : Covers (fun _ => True) blanks := covers_blanks fun _ _ => trivial
  constructor
  · exact covers_amount.bind fun _ => hblanks.bind fun _ =>
      (covers_charWhere fun _ _ => trivial).bind fun _ => hblanks.bind fun _ =>
        covers_amount.bind fun _ => covers_pure _
  · exact shows_amount.bind_left _

theorem isPricePhrase_betweenAmounts :
    IsPricePhrase betweenAmounts := by
  have haround := isPricePhrase_amountsAround "and"
  constructor
  · exact covers_boundary.bind fun _ => (covers_anyWord "between").bind fun _ =>
      covers_anyBlanks.bind fun _ => haround.covers
  · exact Shows.bind_right fun _ => Shows.bind_right fun _ => Shows.bind_right fun _ =>
      haround.shows

theorem isPricePhrase_of_mem_prices
    {pattern : Pattern PriceBound} (h : pattern ∈ prices) :
    IsPricePhrase pattern := by
  simp only [prices, List.mem_cons, List.not_mem_nil, or_false] at h
  rcases h with rfl | rfl | rfl | rfl | rfl | rfl | rfl | rfl | rfl | rfl | rfl | rfl | rfl
  · exact (isPricePhrase_wordsThenAmount _).map _
  · exact (isPricePhrase_wordsThenAmount _).map _
  · exact (isPricePhrase_wordsThenAmount _).map _
  · exact (isPricePhrase_amountThenWords _).map _
  · exact (isPricePhrase_amountThenWords _).map _
  · exact (isPricePhrase_wordsThenAmount _).map _
  · exact (isPricePhrase_wordsThenAmount _).map _
  · exact (isPricePhrase_wordsThenAmount _).map _
  · exact (isPricePhrase_amountThenWords _).map _
  · exact (isPricePhrase_amountThenWords _).map _
  · exact isPricePhrase_betweenAmounts.map _
  · exact isPricePhrase_amountsAroundHyphen.map _
  · exact (isPricePhrase_amountsAround _).map _

/-!
## Sort phrases
-/

theorem not_isDigit_of_sameLetter
    {letter c : Char} (hletter : letter.isLower = true) (h : sameLetter letter c = true) :
    isDigit c = false := by
  have hascii : forall d : Char, d.toNat < 128 -> d.isUpper = true ∨ d.isLower = true ->
      (!isDigit d) = true := fun d hd => forall_ascii hd (by decide)
  exact (Bool.not_eq_true' _).mp
    (forall_sameLetter (fun d => !isDigit d) hascii (by decide) hletter h)

theorem covers_sortWords
    {words : List String}
    (h : (words.all fun word => word.toList.all Char.isLower) = true) :
    Covers (fun c => isDigit c = false) (boundedWords words) := by
  apply covers_boundedWords not_isDigit_of_isBlank
  intro word hword letter hletter c hc
  have hlower := List.all_eq_true.mp (List.all_eq_true.mp h word hword) letter hletter
  exact not_isDigit_of_sameLetter hlower hc

theorem covers_wordThenDollar
    {text : String} (h : text.toList.all Char.isLower = true) :
    Covers (fun c => isDigit c = false) (wordThenDollar text) := by
  have hword : Covers (fun c => isDigit c = false) (word text) :=
    covers_word fun letter hmem _ hc =>
      not_isDigit_of_sameLetter (List.all_eq_true.mp h letter hmem) hc
  have hdollar : Covers (fun c => isDigit c = false) (charWhere (· == '$')) := by
    apply covers_charWhere
    intro c hc
    rw [beq_iff_eq.mp hc]
    decide
  exact covers_boundary.bind fun _ => hword.bind fun _ =>
    (covers_someBlanks not_isDigit_of_isBlank).bind fun _ => hdollar.bind fun _ => covers_pure ()

theorem covers_of_mem_sorts
    {entry : Pattern Unit × SortIntent} (h : entry ∈ sorts) :
    Covers (fun c => isDigit c = false) entry.1 := by
  simp only [sorts, List.mem_cons, List.not_mem_nil, or_false] at h
  rcases h with rfl | rfl | rfl | rfl | rfl
  all_goals
    apply covers_anyOf
    intro pattern hmem
    simp only [List.mem_cons, List.not_mem_nil, or_false] at hmem
    rcases hmem with rfl | rfl | rfl
    all_goals first
      | exact covers_sortWords (by decide)
      | exact covers_wordThenDollar (by decide)

/-!
## The first phrase found
-/

theorem firstFound_eq_some
    {α β : Type} {pattern : α -> Pattern β} {text : List Char} {list : List α} {entry : α}
    {found : Match β} (h : firstFound pattern text list = some (entry, found)) :
    entry ∈ list ∧ (pattern entry).search text = some found := by
  induction list with
  | nil => cases h
  | cons first rest ih =>
      rw [firstFound] at h
      cases hfirst : (pattern first).search text with
      | some other =>
          rw [hfirst] at h
          injection h with hpair
          injection hpair with hentry hfound
          rw [← hentry, ← hfound]
          exact ⟨List.mem_cons_self, hfirst⟩
      | none =>
          rw [hfirst] at h
          rcases ih h with ⟨hmem, hsearch⟩
          exact ⟨List.mem_cons_of_mem first hmem, hsearch⟩

end Phrase

end CatalogSearch
