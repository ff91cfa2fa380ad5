import CatalogSearch.Proofs.Query.Agreement
import CatalogSearch.Proofs.Query.Amounts

/-!
# Phrases that stand where they stood

A phrase depends on the text that it covers and on the two characters beside it.  It fits
wherever that text stands between those characters.
-/

namespace CatalogSearch

open Text

namespace Pattern

variable {α β : Type}

def Lasts (pattern : Pattern α) : Prop :=
  forall (prev : Option Char) (text : List Char) (hit : Hit α) (rest : List Char),
    pattern prev text = some hit -> rest.head? = hit.rest.head? ->
      (pattern prev (hit.text ++ rest)).isSome

/-- A pattern that covers the same text wherever that stands before the same character, unless the
character could continue it. -/
def Steady (continues : Char -> Prop) (pattern : Pattern α) : Prop :=
  forall (prev : Option Char) (text : List Char) (hit : Hit α) (rest : List Char),
    pattern prev text = some hit -> rest.head? = hit.rest.head? ->
      (forall c : Char, hit.rest.head? = some c -> ¬ continues c) ->
        pattern prev (hit.text ++ rest) = some ⟨hit.value, hit.text, rest⟩

theorem head?_append_congr
    {front rest rest' : List Char} (h : rest'.head? = rest.head?) :
    (front ++ rest').head? = (front ++ rest).head? := by
  rw [List.head?_append, List.head?_append, h]

theorem Lasts.bind
    {continues : Char -> Prop} {first : Pattern α} {next : α -> Pattern β}
    (hfirst : Steady continues first) (hnext : forall value : α, Lasts (next value))
    (hcovers : forall value : α, Covers (fun _ => True) (next value))
    (hopens : forall (value : α) (prev : Option Char) (text : List Char) (hit : Hit β),
      next value prev text = some hit -> forall c : Char, text.head? = some c -> ¬ continues c) :
    Lasts (first >>= next) := by
  intro prev text hit rest hhit hhead
  rcases bind_parts hhit with ⟨lead, last, hlead, hlast, _, htext, hrest⟩
  have hsplit := (hcovers lead.value).split hlast
  rw [hrest] at hhead
  have hbetween : (last.text ++ rest).head? = lead.rest.head? := by
    rw [hsplit]
    exact head?_append_congr hhead
  have hagain := hfirst prev text lead (last.text ++ rest) hlead hbetween
    (hopens lead.value _ _ last hlast)
  rw [htext, List.append_assoc, bind_of_some hagain, Option.isSome_map]
  exact hnext lead.value _ _ last rest hlast hhead

theorem Lasts.map
    {pattern : Pattern α} (h : Lasts pattern) (f : α -> β) :
    Lasts (f <$> pattern) := by
  intro prev text hit rest hhit hhead
  rcases map_eq_some.mp hhit with ⟨inner, hinner, rfl⟩
  rcases Option.isSome_iff_exists.mp (h prev text inner rest hinner hhead) with ⟨again, hagain⟩
  rw [map_eq_some.mpr ⟨again, hagain, rfl⟩]
  rfl

theorem lasts_pure (value : α) :
    Lasts (pure value : Pattern α) :=
  fun _ _ _ _ _ _ => rfl

theorem lasts_anyOf
    {patterns : List (Pattern α)}
    (h : forall pattern : Pattern α, pattern ∈ patterns -> Lasts pattern) :
    Lasts (anyOf patterns) := by
  induction patterns with
  | nil =>
      intro prev text hit rest hhit
      cases hhit
  | cons pattern patterns ih =>
      intro prev text hit rest hhit hhead
      have hor : anyOf (pattern :: patterns) prev (hit.text ++ rest) =
          (pattern prev (hit.text ++ rest)).or (anyOf patterns prev (hit.text ++ rest)) := rfl
      rw [hor, Option.isSome_or, Bool.or_eq_true]
      rcases orElse_eq_some.mp hhit with hfirst | ⟨_, hrest⟩
      · exact Or.inl (h pattern List.mem_cons_self prev text hit rest hfirst hhead)
      · exact Or.inr (ih (fun other hmem => h other (List.mem_cons_of_mem pattern hmem))
          prev text hit rest hrest hhead)

/-!
## Steady parts
-/

section Steady

variable {continues : Char -> Prop}

theorem steady_charWhere (class? : Char -> Bool) :
    Steady continues (charWhere class?) := by
  intro prev text hit rest hhit _ _
  rcases charWhere_eq_some.mp hhit with ⟨c, _, _, hc, rfl⟩
  exact charWhere_eq_some.mpr ⟨c, rest, rfl, hc, rfl⟩

theorem steady_boundary :
    Steady continues boundary := by
  intro prev text hit rest hhit hhead _
  unfold boundary at hhit ⊢
  split at hhit
  · rename_i hplace
    have heq := Option.some.inj hhit
    rw [← heq] at hhead ⊢
    rw [List.nil_append, hhead, if_pos hplace]
  · cases hhit

theorem steady_run
    {class? : Char -> Bool} {text rest : List Char}
    (hhead : rest.head? = (text.dropWhile class?).head?) :
    (text.takeWhile class? ++ rest).takeWhile class? = text.takeWhile class? ∧
      (text.takeWhile class? ++ rest).dropWhile class? = rest := by
  apply takeWhile_run (fun _ => mem_takeWhile)
  intro c hc
  rw [hhead] at hc
  exact head_dropWhile hc

theorem steady_blanks :
    Steady continues blanks := by
  intro prev text hit rest hhit hhead _
  rw [blanks_eq_some.mp hhit] at hhead ⊢
  rcases steady_run hhead with ⟨htake, hdrop⟩
  rw [blanks_eq_some, htake, hdrop]

theorem steady_someBlanks :
    Steady continues someBlanks := by
  intro prev text hit rest hhit hhead _
  have hspot := someBlanks_spot ⟨prev, text⟩
  simp only at hspot
  rw [hspot] at hhit
  split at hhit
  · cases hhit
  · rename_i hne
    rw [← Option.some.inj hhit] at hhead ⊢
    rcases steady_run hhead with ⟨htake, hdrop⟩
    have hagain := someBlanks_spot ⟨prev, text.takeWhile isBlank ++ rest⟩
    simp only [htake, hdrop] at hagain
    rw [hagain, if_neg hne]

end Steady

/-!
## Amounts
-/

theorem getLast?_toList (prev : Option Char) :
    prev.toList.getLast? = prev := by
  cases prev with
  | none => rfl
  | some c => rfl

theorem finds_hit
    {pattern : Pattern α} {prev : Option Char} {text : List Char} {hit : Hit α}
    (h : pattern prev text = some hit) :
    Finds pattern ⟨prev.toList, text⟩ hit.value ⟨prev.toList ++ hit.text, hit.rest⟩ :=
  ⟨hit.text, rfl, by rw [getLast?_toList]; exact h⟩

theorem hit_of_finds
    {pattern : Pattern α} {prev : Option Char} {text part rest : List Char} {value : α}
    (h : Finds pattern ⟨prev.toList, text⟩ value ⟨prev.toList ++ part, rest⟩) :
    pattern prev text = some ⟨value, part, rest⟩ := by
  rcases h with ⟨other, hbefore, hhit⟩
  rw [getLast?_toList] at hhit
  rw [List.append_cancel_left hbefore]
  exact hhit

theorem amount_text
    {prev : Option Char} {text : List Char} {hit : Hit Digits}
    (h : amount prev text = some hit) :
    exists dollar : List Char, (dollar = [] ∨ dollar = ['$']) ∧
      hit.text = dollar ++ (hit.value.whole ++ Place.pointed hit.value.fraction) ∧
      Place.LongestNumeral ⟨prev.toList ++ dollar,
        hit.value.whole ++ Place.pointed hit.value.fraction ++ hit.rest⟩ hit.value
        ⟨prev.toList ++ hit.text, hit.rest⟩ := by
  rcases finds_amount.mp (finds_hit h) with ⟨middle, hdollar, hnumeral⟩
  have hreads := hnumeral.reads
  have hrest := hreads.rest
  rcases hdollar with rfl | hsign
  · have hbefore := List.append_cancel_left hreads.before
    refine ⟨[], Or.inl rfl, by rw [List.nil_append]; exact hbefore, ?_⟩
    rw [List.append_nil, ← hrest]
    exact hnumeral
  · have hbefore := hreads.before
    rw [hsign.before, List.append_assoc] at hbefore
    refine ⟨['$'], Or.inr rfl, List.append_cancel_left hbefore, ?_⟩
    rw [← hrest, ← hsign.before]
    exact hnumeral

theorem amount_of_text
    {prev : Option Char} {dollar rest : List Char} {digits : Digits}
    (hdollar : dollar = [] ∨ dollar = ['$'])
    (h : Place.LongestNumeral ⟨prev.toList ++ dollar,
      digits.whole ++ Place.pointed digits.fraction ++ rest⟩ digits
      ⟨prev.toList ++ (dollar ++ (digits.whole ++ Place.pointed digits.fraction)), rest⟩) :
    amount prev (dollar ++ (digits.whole ++ Place.pointed digits.fraction) ++ rest) =
      some ⟨digits, dollar ++ (digits.whole ++ Place.pointed digits.fraction), rest⟩ := by
  apply hit_of_finds
  apply finds_amount.mpr
  refine ⟨_, ?_, h⟩
  rcases hdollar with rfl | rfl
  · left
    simp
  · right
    exact ⟨rfl, by simp⟩

theorem steady_amount :
    Steady (fun c => c = '.') amount := by
  intro prev text hit rest hhit hhead hpoint
  rcases amount_text hhit with ⟨dollar, hdollar, htext, hnumeral⟩
  have hsame : forall c : Char, rest.head? = some c -> hit.rest.head? = some c := by
    intro c hc
    rw [← hhead]
    exact hc
  rw [htext]
  apply amount_of_text hdollar
  constructor
  · exact ⟨by rw [List.append_assoc], rfl⟩
  · exact hnumeral.whole_ne_nil
  · exact hnumeral.whole
  · exact hnumeral.fraction
  · exact hnumeral.fraction_length
  · intro hshort c hc
    exact hnumeral.ends hshort c (hsame c hc)
  · intro _ c tail hrest
    have hhead' : rest.head? = some '.' := by
      rw [show rest = '.' :: c :: tail from hrest]
      rfl
    exact absurd rfl (hpoint '.' (hsame '.' hhead'))

theorem exists_finds_perhaps (pattern : Pattern α) (place : Place) :
    exists (value : Option α) (last : Place), Finds (perhaps pattern) place value last := by
  cases hhit : pattern place.before.getLast? place.rest with
  | none =>
      exact ⟨none, place, finds_perhaps.mpr (Or.inr ⟨rfl, rfl, eq_none_iff_not_finds.mp hhit⟩)⟩
  | some hit =>
      exact ⟨some hit.value, _, finds_perhaps.mpr (Or.inl ⟨_, rfl, finds_of_hit hhit⟩)⟩

theorem exists_finds_numeral (before rest : List Char) {c : Char} (hc : isDigit c = true) :
    exists (digits : Digits) (last : Place), Finds numeral ⟨before, c :: rest⟩ digits last := by
  have hrun : (c :: rest).takeWhile isDigit ≠ [] := by
    rw [List.takeWhile_cons, hc]
    exact List.cons_ne_nil _ _
  have hwhole : exists middle : Place,
      Finds (someWhere isDigit) ⟨before, c :: rest⟩ ((c :: rest).takeWhile isDigit) middle :=
    ⟨_, finds_of_hit (someWhere_eq_some.mpr ⟨hrun, rfl⟩)⟩
  rcases hwhole with ⟨middle, hwhole⟩
  rcases exists_finds_perhaps decimals middle with ⟨fraction, last, hfraction⟩
  refine ⟨⟨(c :: rest).takeWhile isDigit, fraction.getD []⟩, last, ?_⟩
  unfold numeral
  simp only [finds_bind, finds_pure]
  exact ⟨_, middle, hwhole, fraction, last, hfraction, rfl, rfl⟩

theorem isSome_amount
    {prev : Option Char} {dollar rest : List Char} {c : Char}
    (hdollar : dollar = [] ∨ dollar = ['$']) (hc : isDigit c = true) :
    (amount prev (dollar ++ c :: rest)).isSome := by
  rcases exists_finds_numeral (prev.toList ++ dollar) rest hc with ⟨digits, last, hfinds⟩
  have hdollar' : Place.ReadsDollar ⟨prev.toList, dollar ++ c :: rest⟩
      ⟨prev.toList ++ dollar, c :: rest⟩ := by
    rcases hdollar with rfl | rfl
    · left
      simp
    · exact Or.inr ⟨rfl, rfl⟩
  rcases finds_amount.mpr ⟨_, hdollar', finds_numeral.mp hfinds⟩ with ⟨part, _, hhit⟩
  rw [getLast?_toList] at hhit
  rw [hhit]
  rfl

theorem lasts_amount :
    Lasts amount := by
  intro prev text hit rest hhit _
  rcases amount_text hhit with ⟨dollar, hdollar, htext, hnumeral⟩
  cases hwhole : hit.value.whole with
  | nil => exact absurd hwhole hnumeral.whole_ne_nil
  | cons c whole =>
      have hc := hnumeral.whole c (by rw [hwhole]; exact List.mem_cons_self)
      rw [htext, hwhole, List.append_assoc, List.append_assoc, List.cons_append]
      exact isSome_amount hdollar hc

end Pattern

namespace Phrase

open Pattern

/-!
## Lasting phrases
-/

theorem covers_readParts (parts : List Part) :
    Covers (fun _ => True) (readParts parts) := by
  induction parts with
  | nil => exact covers_pure []
  | cons part rest ih =>
      have hpart : Covers (fun _ => True) part.pattern := by
        cases part with
        | boundary => exact covers_boundary.map _
        | letter letter => exact (covers_charWhere fun _ _ => trivial).map _
        | symbol symbol => exact (covers_charWhere fun _ _ => trivial).map _
        | someBlanks => exact covers_anyBlanks.map _
        | blanks => exact (covers_blanks fun _ _ => trivial).map _
        | amount => exact covers_amount.map _
      exact hpart.bind fun _ => ih.bind fun _ => covers_pure _

theorem not_point_ahead
    {stoppers : List Char} {parts : List Part} (hwell : wellFormed stoppers parts = true)
    (hends : endsAmount parts = true) (hne : parts ≠ []) {prev : Option Char} {text : List Char}
    {hit : Hit (List Digits)} (hhit : readParts parts prev text = some hit) (c : Char)
    (hhead : text.head? = some c) :
    c ≠ '.' := by
  -- behind the amount stands a blank, or the part that white space may be missing before
  have hblank : isBlank c = true -> c ≠ '.' := fun hc => ne_of_class hc (by decide)
  cases parts with
  | nil => exact absurd rfl hne
  | cons part rest =>
      rw [endsAmount, Bool.or_eq_true, beq_iff_eq, beq_iff_eq] at hends
      rcases hends with rfl | rfl
      · rw [readParts_someBlanks] at hhit
        rcases bind_parts hhit with ⟨lead, _, hlead, _⟩
        rcases bind_parts hlead with ⟨run, _, hrun, _⟩
        rcases head_someWhere hrun with ⟨d, hd, hdBlank⟩
        rw [hhead] at hd
        rw [← Option.some.inj hd] at hdBlank
        exact hblank hdBlank
      · rw [wellFormed, Bool.and_eq_true] at hwell
        rw [readParts_blanks] at hhit
        rcases bind_parts hhit with ⟨lead, last, hlead, hlast, _⟩
        rw [blanks_eq_some.mp hlead] at hlast
        cases hc : isBlank c with
        | true => exact hblank hc
        | false =>
            cases text with
            | nil => cases hhead
            | cons d text =>
                rw [← Option.some.inj hhead] at hc
                rw [List.dropWhile_cons, hc] at hlast
                rcases head_of_solidAhead hwell.1 hlast with ⟨e, he, _, hpoint⟩
                rw [← Option.some.inj hhead, Option.some.inj he]
                exact hpoint

theorem lasts_readParts
    {stoppers : List Char} {parts : List Part} (h : wellFormed stoppers parts = true) :
    Lasts (readParts parts) := by
  induction parts with
  | nil => exact lasts_pure []
  | cons part rest ih =>
      have hsteady : forall {α : Type} {first : Pattern α}, Steady (fun _ => False) first ->
          wellFormed stoppers rest = true -> Lasts (first >>= fun _ => readParts rest) := by
        intro α first hfirst hrest
        exact Lasts.bind hfirst (fun _ => ih hrest) (fun _ => covers_readParts rest)
          (fun _ _ _ _ _ _ _ hno => hno)
      cases part with
      | boundary =>
          rw [readParts_boundary]
          exact hsteady steady_boundary h
      | letter letter =>
          rw [wellFormed, Bool.and_eq_true] at h
          rw [readParts_letter]
          exact hsteady (steady_charWhere _) h.2
      | symbol symbol =>
          rw [wellFormed, Bool.and_eq_true] at h
          rw [readParts_symbol]
          exact hsteady (steady_charWhere _) h.2
      | someBlanks =>
          rw [wellFormed, Bool.and_eq_true] at h
          rw [readParts_someBlanks]
          exact hsteady steady_someBlanks h.2
      | blanks =>
          rw [wellFormed, Bool.and_eq_true] at h
          rw [readParts_blanks]
          exact hsteady steady_blanks h.2
      | amount =>
          rw [wellFormed, Bool.and_eq_true] at h
          rw [readParts_amount]
          by_cases hnil : rest = []
          · have hlast : (amount >>= fun digits => (digits :: ·) <$> readParts []) =
                (fun digits => [digits]) <$> amount := by simp [readParts]
            rw [hnil, hlast]
            exact lasts_amount.map _
          · refine Lasts.bind steady_amount (fun _ => (ih h.2).map _)
              (fun _ => (covers_readParts rest).map _) ?_
            intro digits prev text hit hhit c hhead
            rcases map_eq_some.mp hhit with ⟨inner, hinner, _⟩
            exact not_point_ahead h.2 h.1 hnil hinner c hhead

theorem lasts_readsOne
    {stoppers : List Char} {alternatives : List (List Part)}
    (h : (alternatives.all fun parts => wellFormed stoppers parts) = true) :
    Lasts (readsOne alternatives) := by
  apply lasts_anyOf
  intro pattern hmem
  rcases List.mem_map.mp hmem with ⟨parts, hparts, rfl⟩
  exact (lasts_readParts (List.all_eq_true.mp h parts hparts)).map _

end Phrase

end CatalogSearch
