import CatalogSearch.Proofs.Query.Parts
import CatalogSearch.Proofs.Query.Phrases

/-!
# Phrases at related places

Two places look alike to a phrase if the same solid characters follow each
other there, whatever white space is between them.  A phrase then fits at both
places or at none, with the same amounts.
-/

namespace CatalogSearch

open Text

structure Spot where
  prev : Option Char
  rest : List Char

namespace Spot

def overBlanks (spot : Spot) : Spot :=
  ⟨(spot.rest.takeWhile isBlank).getLast?.or spot.prev, spot.rest.dropWhile isBlank⟩

def Stops (stoppers : List Char) (spot : Spot) : Prop :=
  forall c : Char, spot.rest.head? = some c -> c ∈ stoppers

end Spot

/-- Places related so that the solid characters behind them are the same, or those behind white
space are stoppers. -/
structure Tracks (stoppers : List Char) (related : Spot -> Spot -> Prop) : Prop where
  word : forall {spot spot' : Spot}, related spot spot' ->
    spot'.prev.any isWordChar = spot.prev.any isWordChar
  ahead : forall {prev : Option Char} {c : Char} {text : List Char} {spot' : Spot},
    related ⟨prev, c :: text⟩ spot' -> isBlank c = false ->
      exists text' : List Char, spot'.rest = c :: text' ∧ related ⟨some c, text⟩ ⟨some c, text'⟩
  behind : forall {prev' : Option Char} {c : Char} {text' : List Char} {spot : Spot},
    related spot ⟨prev', c :: text'⟩ -> isBlank c = false ->
      exists text : List Char, spot.rest = c :: text ∧ related ⟨some c, text⟩ ⟨some c, text'⟩
  across : forall {spot spot' : Spot}, related spot spot' ->
    related spot.overBlanks spot'.overBlanks ∧
        (spot.rest.takeWhile isBlank = [] <-> spot'.rest.takeWhile isBlank = []) ∨
      spot.overBlanks.Stops stoppers ∧ spot'.overBlanks.Stops stoppers

namespace Tracks

variable {stoppers : List Char} {related : Spot -> Spot -> Prop} {spot spot' : Spot}

theorem head
    (htracks : Tracks stoppers related) {class? : Char -> Bool}
    (hsolid : forall c : Char, class? c = true -> isBlank c = false)
    (hrelated : related spot spot') :
    spot'.rest.head?.any class? = spot.rest.head?.any class? := by
  rcases spot with ⟨prev, rest⟩
  rcases spot' with ⟨prev', rest'⟩
  cases rest with
  | nil =>
      cases rest' with
      | nil => rfl
      | cons c rest' =>
          cases hclass : class? c with
          | false => simp [hclass]
          | true =>
              rcases htracks.behind hrelated (hsolid c hclass) with ⟨text, hnil, _⟩
              cases hnil
  | cons c rest =>
      cases hclass : class? c with
      | true =>
          rcases htracks.ahead hrelated (hsolid c hclass) with ⟨text', hcons, _⟩
          rw [show rest' = c :: text' from hcons]
          simp
      | false =>
          cases rest' with
          | nil => simp [hclass]
          | cons d rest' =>
              cases hclass' : class? d with
              | false => simp [hclass, hclass']
              | true =>
                  rcases htracks.behind hrelated (hsolid d hclass') with ⟨text, hcons, _⟩
                  rw [(List.cons.inj hcons).1, hclass'] at hclass
                  cases hclass

/-- Runs of solid characters at related places are the same and lead to related places. -/
theorem run
    (htracks : Tracks stoppers related) {class? : Char -> Bool}
    (hsolid : forall c : Char, class? c = true -> isBlank c = false)
    (hrelated : related spot spot') :
    spot'.rest.takeWhile class? = spot.rest.takeWhile class? ∧
      related ⟨(spot.rest.takeWhile class?).getLast?.or spot.prev, spot.rest.dropWhile class?⟩
        ⟨(spot'.rest.takeWhile class?).getLast?.or spot'.prev, spot'.rest.dropWhile class?⟩ := by
  rcases spot with ⟨prev, rest⟩
  induction rest generalizing prev spot' with
  | nil =>
      have hhead := htracks.head hsolid hrelated
      rcases spot' with ⟨prev', rest'⟩
      cases rest' with
      | nil => exact ⟨rfl, hrelated⟩
      | cons c rest' =>
          have hc : class? c = false := by simpa using hhead
          simp only [List.takeWhile_nil, List.dropWhile_nil, List.takeWhile_cons,
            List.dropWhile_cons, hc]
          exact ⟨rfl, hrelated⟩
  | cons c rest ih =>
      cases hc : class? c with
      | true =>
          rcases htracks.ahead hrelated (hsolid c hc) with ⟨text', hcons, hafter⟩
          rcases ih (some c) hafter with ⟨hsame, hbehind⟩
          rw [hcons]
          simp only [List.takeWhile_cons, List.dropWhile_cons, hc, if_true,
            Pattern.getLast?_cons_or]
          exact ⟨congrArg _ hsame, hbehind⟩
      | false =>
          have hhead := htracks.head hsolid hrelated
          rcases spot' with ⟨prev', rest'⟩
          cases rest' with
          | nil =>
              simp only [List.takeWhile_nil, List.dropWhile_nil, List.takeWhile_cons,
                List.dropWhile_cons, hc]
              exact ⟨rfl, hrelated⟩
          | cons d rest' =>
              have hd : class? d = false := by simpa [hc] using hhead
              simp only [List.takeWhile_cons, List.dropWhile_cons, hc, hd]
              exact ⟨rfl, hrelated⟩

end Tracks

namespace Hit

variable {α : Type}

def behind (hit : Hit α) (spot : Spot) : Spot :=
  ⟨hit.text.getLast?.or spot.prev, hit.rest⟩

structure Agree (related : Spot -> Spot -> Prop) (spot spot' : Spot) (hit hit' : Hit α) :
    Prop where
  value : hit'.value = hit.value
  places : related (hit.behind spot) (hit'.behind spot')

end Hit

namespace Pattern

variable {α β : Type}

def Agrees (related : Spot -> Spot -> Prop) (pattern : Pattern α) : Prop :=
  forall spot spot' : Spot, related spot spot' ->
    Option.Rel (Hit.Agree related spot spot') (pattern spot.prev spot.rest)
      (pattern spot'.prev spot'.rest)

def Halts (stoppers : List Char) (pattern : Pattern α) : Prop :=
  forall spot : Spot, spot.Stops stoppers -> pattern spot.prev spot.rest = none

/-!
## Agreement of composed patterns
-/

theorem bind_of_none
    {first : Pattern α} {next : α -> Pattern β} {prev : Option Char} {text : List Char}
    (h : first prev text = none) :
    (first >>= next) prev text = none := by
  show followedBy first next prev text = none
  unfold followedBy
  rw [h]

theorem bind_of_some
    {first : Pattern α} {next : α -> Pattern β} {prev : Option Char} {text : List Char}
    {lead : Hit α} (h : first prev text = some lead) :
    (first >>= next) prev text =
      (next lead.value (lead.text.getLast?.or prev) lead.rest).map fun last =>
        ⟨last.value, lead.text ++ last.text, last.rest⟩ := by
  show followedBy first next prev text = _
  unfold followedBy
  rw [h]
  cases hlast : next lead.value (lead.text.getLast?.or prev) lead.rest with
  | none => simp [hlast]
  | some last => simp [hlast]

theorem rel_cases
    {related : α -> β -> Prop} {a : Option α} {b : Option β} (h : Option.Rel related a b) :
    a = none ∧ b = none ∨
      exists (x : α) (y : β), a = some x ∧ b = some y ∧ related x y := by
  cases h with
  | none => exact Or.inl ⟨rfl, rfl⟩
  | some hrelated => exact Or.inr ⟨_, _, rfl, rfl, hrelated⟩

section Agreement

variable {related : Spot -> Spot -> Prop}

theorem agrees_pure (value : α) :
    Agrees related (pure value : Pattern α) := by
  intro spot spot' hrelated
  exact .some ⟨rfl, hrelated⟩

theorem Agrees.bind
    {first : Pattern α} {next : α -> Pattern β} (hfirst : Agrees related first)
    (hnext : forall value : α, Agrees related (next value)) :
    Agrees related (first >>= next) := by
  intro spot spot' hrelated
  rcases rel_cases (hfirst spot spot' hrelated) with
    ⟨hnone, hnone'⟩ | ⟨lead, lead', hlead, hlead', hagree⟩
  · rw [bind_of_none hnone, bind_of_none hnone']
    exact .none
  · rw [bind_of_some hlead, bind_of_some hlead', hagree.value]
    rcases rel_cases (hnext lead.value _ _ hagree.places) with
      ⟨hnone, hnone'⟩ | ⟨last, last', hlast, hlast', hbehind⟩
    · simp only [Hit.behind] at hnone hnone'
      rw [hnone, hnone']
      exact .none
    · have hplaces := hbehind.places
      simp only [Hit.behind] at hlast hlast' hplaces
      rw [hlast, hlast']
      refine .some ⟨hbehind.value, ?_⟩
      simp only [Hit.behind, getLast?_append_or]
      exact hplaces

theorem Agrees.map
    {pattern : Pattern α} (h : Agrees related pattern) (f : α -> β) :
    Agrees related (f <$> pattern) :=
  h.bind fun value => agrees_pure (f value)

theorem Agrees.orElse
    {first second : Pattern α} (hfirst : Agrees related first) (hsecond : Agrees related second) :
    Agrees related (orElse first second) := by
  intro spot spot' hrelated
  unfold Pattern.orElse
  rcases rel_cases (hfirst spot spot' hrelated) with
    ⟨hnone, hnone'⟩ | ⟨hit, hit', hhit, hhit', hagree⟩
  · rw [hnone, hnone']
    exact hsecond spot spot' hrelated
  · rw [hhit, hhit']
    exact .some hagree

theorem Agrees.perhaps
    {pattern : Pattern α} (h : Agrees related pattern) :
    Agrees related (perhaps pattern) :=
  (h.bind fun value => agrees_pure (some value)).orElse (agrees_pure none)

theorem agrees_anyOf
    {patterns : List (Pattern α)}
    (h : forall pattern : Pattern α, pattern ∈ patterns -> Agrees related pattern) :
    Agrees related (anyOf patterns) := by
  induction patterns with
  | nil =>
      intro spot spot' hrelated
      exact .none
  | cons pattern patterns ih =>
      have hrest := ih fun other hmem => h other (List.mem_cons_of_mem pattern hmem)
      exact (h pattern List.mem_cons_self).orElse hrest

/-!
## Agreement of single characters, boundaries and white space
-/

variable {stoppers : List Char}

theorem agrees_charWhere
    (htracks : Tracks stoppers related) {class? : Char -> Bool}
    (hsolid : forall c : Char, class? c = true -> isBlank c = false) :
    Agrees related (charWhere class?) := by
  intro spot spot' hrelated
  have hhead := htracks.head hsolid hrelated
  rcases spot with ⟨prev, rest⟩
  rcases spot' with ⟨prev', rest'⟩
  cases rest with
  | nil =>
      cases rest' with
      | nil => exact .none
      | cons c rest' =>
          have hc : class? c = false := by simpa using hhead
          unfold charWhere
          simp only [hc]
          exact .none
  | cons c rest =>
      cases hc : class? c with
      | true =>
          rcases htracks.ahead hrelated (hsolid c hc) with ⟨text', hcons, hafter⟩
          rw [show rest' = c :: text' from hcons]
          unfold charWhere
          simp only [hc, if_true]
          exact .some ⟨rfl, hafter⟩
      | false =>
          cases rest' with
          | nil =>
              unfold charWhere
              simp only [hc]
              exact .none
          | cons d rest' =>
              have hd : class? d = false := by simpa [hc] using hhead
              unfold charWhere
              simp only [hc, hd]
              exact .none

theorem agrees_boundary (htracks : Tracks stoppers related) :
    Agrees related boundary := by
  intro spot spot' hrelated
  unfold boundary
  rw [htracks.word hrelated, htracks.head (fun _ => not_isBlank_of_isWordChar) hrelated]
  split
  · exact .some ⟨rfl, hrelated⟩
  · exact .none

theorem agrees_someWhere
    (htracks : Tracks stoppers related) {class? : Char -> Bool}
    (hsolid : forall c : Char, class? c = true -> isBlank c = false) :
    Agrees related (someWhere class?) := by
  intro spot spot' hrelated
  rcases htracks.run hsolid hrelated with ⟨hsame, hbehind⟩
  unfold someWhere manyWhere
  rw [hsame]
  split
  · exact .none
  · refine .some ⟨rfl, ?_⟩
    rw [hsame] at hbehind
    exact hbehind

theorem blanks_spot (spot : Spot) :
    blanks spot.prev spot.rest =
      some ⟨(), spot.rest.takeWhile isBlank, spot.rest.dropWhile isBlank⟩ :=
  blanks_eq_some.mpr rfl

theorem someBlanks_spot (spot : Spot) :
    someBlanks spot.prev spot.rest =
      if spot.rest.takeWhile isBlank = [] then none
      else some ⟨(), spot.rest.takeWhile isBlank, spot.rest.dropWhile isBlank⟩ := by
  have hsome : someBlanks = (someWhere isBlank >>= fun _ => pure ()) := rfl
  have hwhere : someWhere isBlank spot.prev spot.rest =
      if (spot.rest.takeWhile isBlank).isEmpty then none
      else some ⟨spot.rest.takeWhile isBlank, spot.rest.takeWhile isBlank,
        spot.rest.dropWhile isBlank⟩ := rfl
  rw [hsome]
  split
  · rename_i hnil
    apply bind_of_none
    rw [hwhere, hnil]
    rfl
  · rename_i hne
    rw [if_neg (by simpa using hne)] at hwhere
    rw [bind_eq_some]
    exact ⟨_, _, hwhere, rfl, by rw [List.append_nil]⟩

theorem Agrees.after
    {next : Pattern α} (hnext : Agrees related next) {first : Pattern Unit} {spot spot' : Spot}
    (hover : related spot.overBlanks spot'.overBlanks)
    (hhit : first spot.prev spot.rest =
      some ⟨(), spot.rest.takeWhile isBlank, spot.rest.dropWhile isBlank⟩)
    (hhit' : first spot'.prev spot'.rest =
      some ⟨(), spot'.rest.takeWhile isBlank, spot'.rest.dropWhile isBlank⟩) :
    Option.Rel (Hit.Agree related spot spot') ((first >>= fun _ => next) spot.prev spot.rest)
      ((first >>= fun _ => next) spot'.prev spot'.rest) := by
  rw [bind_of_some hhit, bind_of_some hhit']
  rcases rel_cases (hnext _ _ hover) with
    ⟨hnone, hnone'⟩ | ⟨last, last', hlast, hlast', hbehind⟩
  · simp only [Spot.overBlanks] at hnone hnone'
    rw [hnone, hnone']
    exact .none
  · have hplaces := hbehind.places
    simp only [Spot.overBlanks, Hit.behind] at hlast hlast' hplaces
    rw [hlast, hlast']
    refine .some ⟨hbehind.value, ?_⟩
    simp only [Hit.behind, getLast?_append_or]
    exact hplaces

theorem Halts.after
    {next : Pattern α} (hnext : Halts stoppers next) {first : Pattern Unit} {spot : Spot}
    (hstops : spot.overBlanks.Stops stoppers)
    (hhit : first spot.prev spot.rest =
      some ⟨(), spot.rest.takeWhile isBlank, spot.rest.dropWhile isBlank⟩) :
    (first >>= fun _ => next) spot.prev spot.rest = none := by
  have hnone := hnext spot.overBlanks hstops
  simp only [Spot.overBlanks] at hnone
  rw [bind_of_some hhit, hnone]
  rfl

theorem agrees_blanks
    (htracks : Tracks stoppers related) {next : Pattern α} (hnext : Agrees related next)
    (hhalts : Halts stoppers next) :
    Agrees related (blanks >>= fun _ => next) := by
  intro spot spot' hrelated
  rcases htracks.across hrelated with ⟨hover, _⟩ | ⟨hstops, hstops'⟩
  · exact hnext.after hover (blanks_spot spot) (blanks_spot spot')
  · rw [hhalts.after hstops (blanks_spot spot), hhalts.after hstops' (blanks_spot spot')]
    exact .none

theorem agrees_someBlanks
    (htracks : Tracks stoppers related) {next : Pattern α} (hnext : Agrees related next)
    (hhalts : Halts stoppers next) :
    Agrees related (someBlanks >>= fun _ => next) := by
  have hnone : forall spot : Spot, spot.overBlanks.Stops stoppers ->
      (someBlanks >>= fun _ => next) spot.prev spot.rest = none := by
    intro spot hstops
    by_cases hnil : spot.rest.takeWhile isBlank = []
    · exact bind_of_none (by rw [someBlanks_spot, if_pos hnil])
    · exact hhalts.after hstops (by rw [someBlanks_spot, if_neg hnil])
  intro spot spot' hrelated
  rcases htracks.across hrelated with ⟨hover, hsame⟩ | ⟨hstops, hstops'⟩
  · by_cases hnil : spot.rest.takeWhile isBlank = []
    · rw [bind_of_none (by rw [someBlanks_spot, if_pos hnil]),
        bind_of_none (by rw [someBlanks_spot, if_pos (hsame.mp hnil)])]
      exact .none
    · have hnil' := fun h => hnil (hsame.mpr h)
      exact hnext.after hover (by rw [someBlanks_spot, if_neg hnil])
        (by rw [someBlanks_spot, if_neg hnil'])
  · rw [hnone spot hstops, hnone spot' hstops']
    exact .none

/-!
## Agreement of phrases
-/

theorem agrees_amount (htracks : Tracks stoppers related) :
    Agrees related amount := by
  have hsymbol : forall symbol : Char, isBlank symbol = false ->
      Agrees related (charWhere (· == symbol)) := by
    intro symbol hsolid
    apply agrees_charWhere htracks
    intro c hc
    rw [beq_iff_eq.mp hc]
    exact hsolid
  have hdigit : Agrees related digit :=
    agrees_charWhere htracks fun _ => not_isBlank_of_isDigit
  have hdecimals : Agrees related decimals :=
    (hsymbol '.' (by decide)).bind fun _ => hdigit.bind fun _ => hdigit.perhaps.bind fun _ =>
      agrees_pure _
  have hnumeral : Agrees related numeral :=
    (agrees_someWhere htracks fun _ => not_isBlank_of_isDigit).bind fun _ =>
      hdecimals.perhaps.bind fun _ => agrees_pure _
  exact ((hsymbol '$' (by decide)).perhaps.bind fun _ => agrees_pure _).bind fun _ => hnumeral

theorem not_isBlank_of_sameLetter
    {letter c : Char} (hletter : letter.isLower = true) (h : sameLetter letter c = true) :
    isBlank c = false := by
  have hascii : forall d : Char, d.toNat < 128 -> d.isUpper = true ∨ d.isLower = true ->
      (!isBlank d) = true := fun d hd => forall_ascii hd (by decide)
  exact (Bool.not_eq_true' _).mp
    (forall_sameLetter (fun d => !isBlank d) hascii (by decide) hletter h)

theorem halts_charWhere
    {class? : Char -> Bool} (h : (stoppers.all fun c => !class? c) = true) :
    Halts stoppers (charWhere class?) := by
  intro spot hstops
  rcases spot with ⟨prev, rest⟩
  cases rest with
  | nil => rfl
  | cons c rest =>
      have hc := List.all_eq_true.mp h c (hstops c rfl)
      unfold charWhere
      simp only [(Bool.not_eq_true' _).mp hc]
      rfl

theorem Halts.bind
    {first : Pattern α} (h : Halts stoppers first) (next : α -> Pattern β) :
    Halts stoppers (first >>= next) :=
  fun spot hstops => bind_of_none (h spot hstops)

theorem head_someWhere
    {class? : Char -> Bool} {prev : Option Char} {text : List Char} {hit : Hit (List Char)}
    (h : someWhere class? prev text = some hit) :
    exists c : Char, text.head? = some c ∧ class? c = true := by
  cases text with
  | nil => exact absurd rfl (someWhere_eq_some.mp h).1
  | cons c text =>
      cases hc : class? c with
      | true => exact ⟨c, rfl, hc⟩
      | false =>
          have hne := (someWhere_eq_some.mp h).1
          rw [List.takeWhile_cons, hc] at hne
          exact absurd rfl hne

theorem head_amount
    {prev : Option Char} {text : List Char} {hit : Hit Digits}
    (h : amount prev text = some hit) :
    exists c : Char, text.head? = some c ∧ (c == '$' || isDigit c) = true := by
  rcases bind_parts h with ⟨dollar, number, hdollar, hnumber, _⟩
  rcases bind_parts hdollar with ⟨sign, last, hsign, hlast, _, _, hrest⟩
  rw [pure_eq_some.mp hlast] at hrest
  rcases perhaps_eq_some.mp hsign with ⟨inner, hinner, _⟩ | ⟨_, hnone⟩
  · rcases charWhere_eq_some.mp hinner with ⟨c, rest, htext, hc, _⟩
    rw [htext]
    exact ⟨c, rfl, by rw [hc, Bool.true_or]⟩
  · rw [hnone] at hrest
    rw [hrest] at hnumber
    rcases bind_parts hnumber with ⟨whole, _, hwhole, _⟩
    rcases head_someWhere hwhole with ⟨c, hhead, hc⟩
    exact ⟨c, hhead, by rw [hc, Bool.or_true]⟩

theorem halts_amount
    (h : (stoppers.all fun c => !(c == '$' || isDigit c)) = true) :
    Halts stoppers amount := by
  intro spot hstops
  cases hhit : amount spot.prev spot.rest with
  | none => rfl
  | some hit =>
      rcases head_amount hhit with ⟨c, hhead, hc⟩
      have hnot := List.all_eq_true.mp h c (hstops c hhead)
      rw [hc] at hnot
      cases hnot

end Agreement

end Pattern

namespace Phrase

open Pattern

variable {stoppers : List Char} {related : Spot -> Spot -> Prop}

theorem halts_readParts
    {parts : List Part} (h : solidAhead stoppers parts = true) :
    Halts stoppers (readParts parts) := by
  cases parts with
  | nil => cases h
  | cons part rest =>
      rw [solidAhead, Bool.and_eq_true] at h
      cases part with
      | boundary => cases h.1
      | someBlanks => cases h.1
      | blanks => cases h.1
      | letter letter =>
          rw [readParts_letter]
          exact (halts_charWhere h.2).bind _
      | symbol symbol =>
          rw [readParts_symbol]
          exact (halts_charWhere h.2).bind _
      | amount =>
          rw [readParts_amount]
          exact (halts_amount h.2).bind _

theorem not_point_of_sameLetter {letter c : Char} (hletter : letter.isLower = true)
    (h : sameLetter letter c = true) :
    c ≠ '.' := by
  rintro rfl
  rcases sameLetter_cases h with heq | ⟨hupper, _⟩ | ⟨_, hcode⟩
  · rw [← heq] at hletter
    cases hletter
  · cases hupper
  · exact absurd hcode (by decide)

theorem head_of_solidAhead
    {parts : List Part} (h : solidAhead stoppers parts = true) {prev : Option Char}
    {text : List Char} {hit : Hit (List Digits)} (hhit : readParts parts prev text = some hit) :
    exists c : Char, text.head? = some c ∧ isBlank c = false ∧ c ≠ '.' := by
  cases parts with
  | nil => cases h
  | cons part rest =>
      rw [solidAhead, Bool.and_eq_true] at h
      cases part with
      | boundary => cases h.1
      | someBlanks => cases h.1
      | blanks => cases h.1
      | letter letter =>
          rw [readParts_letter] at hhit
          rcases bind_parts hhit with ⟨lead, _, hlead, _⟩
          rcases charWhere_eq_some.mp hlead with ⟨c, _, htext, hc, _⟩
          rw [htext]
          exact ⟨c, rfl, not_isBlank_of_sameLetter h.1 hc, not_point_of_sameLetter h.1 hc⟩
      | symbol symbol =>
          have hsymbol := h.1
          rw [Part.isSolid_symbol, Bool.and_eq_true] at hsymbol
          rw [readParts_symbol] at hhit
          rcases bind_parts hhit with ⟨lead, _, hlead, _⟩
          rcases charWhere_eq_some.mp hlead with ⟨c, _, htext, hc, _⟩
          rw [htext, beq_iff_eq.mp hc]
          exact ⟨symbol, rfl, (Bool.not_eq_true' _).mp hsymbol.1, bne_iff_ne.mp hsymbol.2⟩
      | amount =>
          rw [readParts_amount] at hhit
          rcases bind_parts hhit with ⟨lead, _, hlead, _⟩
          rcases head_amount hlead with ⟨c, hhead, hc⟩
          refine ⟨c, hhead, ?_⟩
          rcases (Bool.or_eq_true _ _).mp hc with hdollar | hdigit
          · rw [beq_iff_eq.mp hdollar]
            decide
          · refine ⟨not_isBlank_of_isDigit hdigit, ?_⟩
            rintro rfl
            cases hdigit

/-- Well-formed phrases read the same at related places. -/
theorem agrees_readParts
    (htracks : Tracks stoppers related) {parts : List Part} (h : wellFormed stoppers parts = true) :
    Agrees related (readParts parts) := by
  induction parts with
  | nil => exact agrees_pure []
  | cons part rest ih =>
      cases part with
      | boundary =>
          rw [readParts_boundary]
          exact (agrees_boundary htracks).bind fun _ => ih h
      | letter letter =>
          rw [wellFormed, Bool.and_eq_true] at h
          rw [readParts_letter]
          exact (agrees_charWhere htracks fun _ => not_isBlank_of_sameLetter h.1).bind
            fun _ => ih h.2
      | symbol symbol =>
          rw [wellFormed, Bool.and_eq_true, Part.isSolid_symbol, Bool.and_eq_true] at h
          rw [readParts_symbol]
          refine (agrees_charWhere htracks ?_).bind fun _ => ih h.2
          intro c hc
          rw [beq_iff_eq.mp hc]
          exact (Bool.not_eq_true' _).mp h.1.1
      | someBlanks =>
          rw [wellFormed, Bool.and_eq_true] at h
          rw [readParts_someBlanks]
          exact agrees_someBlanks htracks (ih h.2) (halts_readParts h.1)
      | blanks =>
          rw [wellFormed, Bool.and_eq_true] at h
          rw [readParts_blanks]
          exact agrees_blanks htracks (ih h.2) (halts_readParts h.1)
      | amount =>
          rw [wellFormed, Bool.and_eq_true] at h
          rw [readParts_amount]
          exact (agrees_amount htracks).bind fun _ => (ih h.2).map _

theorem agrees_readsOne
    (htracks : Tracks stoppers related) {alternatives : List (List Part)}
    (h : (alternatives.all fun parts => wellFormed stoppers parts) = true) :
    Agrees related (readsOne alternatives) := by
  apply agrees_anyOf
  intro pattern hmem
  rcases List.mem_map.mp hmem with ⟨parts, hparts, rfl⟩
  exact (agrees_readParts htracks (List.all_eq_true.mp h parts hparts)).map _

end Phrase

end CatalogSearch
