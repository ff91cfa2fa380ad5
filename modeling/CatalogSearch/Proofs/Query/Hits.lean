import CatalogSearch.Query.Pattern

/-!
# Hits of patterns

What each pattern former recognises at a place, and where a search finds it.
-/

namespace CatalogSearch

open Text

namespace Pattern

variable {α β : Type}

/-!
## Runs of a class
-/

theorem takeWhile_run
    {allowed : Char -> Bool} {run rest : List Char}
    (hrun : forall c : Char, c ∈ run -> allowed c = true)
    (hrest : forall c : Char, rest.head? = some c -> allowed c = false) :
    (run ++ rest).takeWhile allowed = run ∧ (run ++ rest).dropWhile allowed = rest := by
  rw [List.takeWhile_append_of_pos hrun, List.dropWhile_append_of_pos hrun]
  cases rest with
  | nil => exact ⟨List.append_nil run, rfl⟩
  | cons c rest =>
      rw [List.takeWhile_cons, List.dropWhile_cons, hrest c rfl]
      exact ⟨List.append_nil run, rfl⟩

theorem head_dropWhile
    {allowed : Char -> Bool} {text : List Char} {c : Char}
    (h : (text.dropWhile allowed).head? = some c) :
    allowed c = false := by
  have hnot := List.head?_dropWhile_not allowed text
  rw [h] at hnot
  exact hnot

theorem mem_takeWhile
    {allowed : Char -> Bool} {text : List Char} {c : Char} (h : c ∈ text.takeWhile allowed) :
    allowed c = true :=
  List.all_eq_true.mp List.all_takeWhile c h

/-!
## Hits of the formers

A hit of a composed pattern is taken apart into the hits of its parts.
-/

theorem pure_eq_some
    {value : α} {prev : Option Char} {text : List Char} {hit : Hit α} :
    (pure value : Pattern α) prev text = some hit <-> hit = ⟨value, [], text⟩ := by
  show some (Hit.mk value [] text) = some hit <-> _
  rw [Option.some.injEq, eq_comm]

theorem bind_eq_some
    {first : Pattern α} {next : α -> Pattern β} {prev : Option Char} {text : List Char}
    {hit : Hit β} :
    (first >>= next) prev text = some hit <->
      exists lead : Hit α, exists last : Hit β, first prev text = some lead ∧
        next lead.value (lead.text.getLast?.or prev) lead.rest = some last ∧
        hit = ⟨last.value, lead.text ++ last.text, last.rest⟩ := by
  show followedBy first next prev text = some hit <-> _
  unfold followedBy
  constructor
  · intro h
    cases hlead : first prev text with
    | none =>
        rw [hlead] at h
        cases h
    | some lead =>
        rw [hlead] at h
        cases hlast : next lead.value (lead.text.getLast?.or prev) lead.rest with
        | none =>
            simp only [hlast] at h
            cases h
        | some last =>
            simp only [hlast] at h
            exact ⟨lead, last, rfl, hlast, (Option.some.inj h).symm⟩
  · intro h
    rcases h with ⟨lead, last, hlead, hlast, hhit⟩
    rw [hlead, hhit]
    simp only [hlast]

theorem bind_some
    {first : Pattern α} {next : α -> Pattern β} {prev : Option Char} {text : List Char}
    {lead : Hit α} {last : Hit β} (hlead : first prev text = some lead)
    (hlast : next lead.value (lead.text.getLast?.or prev) lead.rest = some last) :
    (first >>= next) prev text = some ⟨last.value, lead.text ++ last.text, last.rest⟩ :=
  bind_eq_some.mpr ⟨lead, last, hlead, hlast, rfl⟩

theorem bind_parts
    {first : Pattern α} {next : α -> Pattern β} {prev : Option Char} {text : List Char}
    {hit : Hit β} (h : (first >>= next) prev text = some hit) :
    exists lead : Hit α, exists last : Hit β, first prev text = some lead ∧
      next lead.value (lead.text.getLast?.or prev) lead.rest = some last ∧
      hit.value = last.value ∧ hit.text = lead.text ++ last.text ∧ hit.rest = last.rest := by
  rcases bind_eq_some.mp h with ⟨lead, last, hlead, hlast, hhit⟩
  rw [hhit]
  exact ⟨lead, last, hlead, hlast, rfl, rfl, rfl⟩

theorem map_eq_some
    {f : α -> β} {pattern : Pattern α} {prev : Option Char} {text : List Char} {hit : Hit β} :
    (f <$> pattern) prev text = some hit <->
      exists inner : Hit α, pattern prev text = some inner ∧
        hit = ⟨f inner.value, inner.text, inner.rest⟩ := by
  show (pattern >>= fun value => pure (f value)) prev text = some hit <-> _
  rw [bind_eq_some]
  constructor
  · intro h
    rcases h with ⟨inner, last, hinner, hlast, hhit⟩
    rw [pure_eq_some.mp hlast, List.append_nil] at hhit
    exact ⟨inner, hinner, hhit⟩
  · intro h
    rcases h with ⟨inner, hinner, hhit⟩
    refine ⟨inner, ⟨f inner.value, [], inner.rest⟩, hinner, pure_eq_some.mpr rfl, ?_⟩
    rw [hhit, List.append_nil]

theorem charWhere_eq_some
    {allowed : Char -> Bool} {prev : Option Char} {text : List Char} {hit : Hit Char} :
    charWhere allowed prev text = some hit <->
      exists c : Char, exists rest : List Char, text = c :: rest ∧ allowed c = true ∧
        hit = ⟨c, [c], rest⟩ := by
  unfold charWhere
  cases text with
  | nil =>
      constructor
      · intro h
        cases h
      · intro h
        rcases h with ⟨c, rest, htext, _⟩
        cases htext
  | cons c rest =>
      constructor
      · intro h
        cases hallowed : allowed c with
        | false =>
            simp only [hallowed] at h
            cases h
        | true =>
            simp only [hallowed] at h
            exact ⟨c, rest, rfl, hallowed, (Option.some.inj h).symm⟩
      · intro h
        rcases h with ⟨d, tail, htext, hallowed, hhit⟩
        injection htext with hc hrest
        rw [hc, hrest, hhit]
        simp only [hallowed, if_true]

theorem someWhere_eq_some
    {allowed : Char -> Bool} {prev : Option Char} {text : List Char} {hit : Hit (List Char)} :
    someWhere allowed prev text = some hit <->
      text.takeWhile allowed ≠ [] ∧
        hit = ⟨text.takeWhile allowed, text.takeWhile allowed, text.dropWhile allowed⟩ := by
  unfold someWhere manyWhere
  cases htaken : text.takeWhile allowed with
  | nil =>
      constructor
      · intro h
        cases h
      · intro h
        exact absurd rfl h.1
  | cons c taken =>
      rw [List.isEmpty_cons, if_neg Bool.false_ne_true, Option.some.injEq, eq_comm]
      constructor
      · intro h
        exact ⟨List.cons_ne_nil c taken, h⟩
      · intro h
        exact h.2

theorem blanks_eq_some
    {prev : Option Char} {text : List Char} {hit : Hit Unit} :
    blanks prev text = some hit <->
      hit = ⟨(), text.takeWhile isBlank, text.dropWhile isBlank⟩ := by
  have hblanks : blanks prev text =
      some ⟨(), text.takeWhile isBlank ++ [], text.dropWhile isBlank⟩ := rfl
  rw [hblanks, List.append_nil, Option.some.injEq, eq_comm]

theorem orElse_eq_some
    {first second : Pattern α} {prev : Option Char} {text : List Char} {hit : Hit α} :
    orElse first second prev text = some hit <->
      first prev text = some hit ∨ first prev text = none ∧ second prev text = some hit := by
  unfold orElse
  rw [Option.or_eq_some_iff]

theorem perhaps_eq_some
    {pattern : Pattern α} {prev : Option Char} {text : List Char} {hit : Hit (Option α)} :
    perhaps pattern prev text = some hit <->
      (exists inner : Hit α, pattern prev text = some inner ∧
        hit = ⟨some inner.value, inner.text, inner.rest⟩) ∨
      pattern prev text = none ∧ hit = ⟨none, [], text⟩ := by
  have hperhaps : perhaps pattern =
      orElse (pattern >>= fun value => pure (some value)) (pure none) := rfl
  rw [hperhaps, orElse_eq_some]
  have hnone : (pattern >>= fun value => pure (some value)) prev text = none <->
      pattern prev text = none := by
    show followedBy pattern (fun value => succeed (some value)) prev text = none <-> _
    unfold followedBy succeed
    cases pattern prev text with
    | none => simp only
    | some inner =>
        constructor
        · intro h
          cases h
        · intro h
          cases h
  have hsome : (pattern >>= fun value => pure (some value)) prev text = some hit <->
      exists inner : Hit α, pattern prev text = some inner ∧
        hit = ⟨some inner.value, inner.text, inner.rest⟩ :=
    map_eq_some
  rw [hnone, hsome, pure_eq_some]

theorem atStart_eq_some
    {prev : Option Char} {text : List Char} {hit : Hit Unit} :
    atStart prev text = some hit <-> prev = none ∧ hit = ⟨(), [], text⟩ := by
  unfold atStart
  cases prev with
  | none =>
      rw [Option.isNone_none, if_pos rfl, Option.some.injEq, eq_comm]
      constructor
      · intro h
        exact ⟨rfl, h⟩
      · intro h
        exact h.2
  | some c =>
      constructor
      · intro h
        cases h
      · intro h
        cases h.1

/-!
## The text covered

A pattern covers the text up to what follows; which characters it can cover is found by the
same induction.
-/

structure Covers (allowed : Char -> Prop) (pattern : Pattern α) : Prop where
  split : forall {prev : Option Char} {text : List Char} {hit : Hit α},
    pattern prev text = some hit -> text = hit.text ++ hit.rest
  chars : forall {prev : Option Char} {text : List Char} {hit : Hit α},
    pattern prev text = some hit -> forall c : Char, c ∈ hit.text -> allowed c

theorem Covers.mono
    {allowed wider : Char -> Prop} {pattern : Pattern α} (h : Covers allowed pattern)
    (hwider : forall c : Char, allowed c -> wider c) :
    Covers wider pattern :=
  ⟨h.split, fun hhit c hmem => hwider c (h.chars hhit c hmem)⟩

section Covers

variable {allowed : Char -> Prop}

theorem covers_pure (value : α) :
    Covers allowed (pure value : Pattern α) := by
  constructor
  · intro prev text hit h
    rw [pure_eq_some.mp h]
    rfl
  · intro prev text hit h c hmem
    rw [pure_eq_some.mp h] at hmem
    cases hmem

theorem Covers.bind
    {first : Pattern α} {next : α -> Pattern β} (hfirst : Covers allowed first)
    (hnext : forall value : α, Covers allowed (next value)) :
    Covers allowed (first >>= next) := by
  constructor
  · intro prev text hit h
    rcases bind_eq_some.mp h with ⟨lead, last, hlead, hlast, hhit⟩
    rw [hhit, List.append_assoc, ← (hnext lead.value).split hlast]
    exact hfirst.split hlead
  · intro prev text hit h c hmem
    rcases bind_eq_some.mp h with ⟨lead, last, hlead, hlast, hhit⟩
    rw [hhit] at hmem
    rcases List.mem_append.mp hmem with hleft | hright
    · exact hfirst.chars hlead c hleft
    · exact (hnext lead.value).chars hlast c hright

theorem Covers.map
    {pattern : Pattern α} (h : Covers allowed pattern) (f : α -> β) :
    Covers allowed (f <$> pattern) :=
  h.bind fun value => covers_pure (f value)

theorem covers_charWhere
    {class? : Char -> Bool} (h : forall c : Char, class? c = true -> allowed c) :
    Covers allowed (charWhere class?) := by
  constructor
  · intro prev text hit hhit
    rcases charWhere_eq_some.mp hhit with ⟨c, rest, htext, _, heq⟩
    rw [htext, heq]
    rfl
  · intro prev text hit hhit c hmem
    rcases charWhere_eq_some.mp hhit with ⟨d, rest, _, hclass, heq⟩
    rw [heq] at hmem
    rw [List.mem_singleton.mp hmem]
    exact h d hclass

theorem covers_someWhere
    {class? : Char -> Bool} (h : forall c : Char, class? c = true -> allowed c) :
    Covers allowed (someWhere class?) := by
  constructor
  · intro prev text hit hhit
    rw [(someWhere_eq_some.mp hhit).2]
    exact List.takeWhile_append_dropWhile.symm
  · intro prev text hit hhit c hmem
    rw [(someWhere_eq_some.mp hhit).2] at hmem
    exact h c (mem_takeWhile hmem)

theorem covers_blanks
    (h : forall c : Char, isBlank c = true -> allowed c) :
    Covers allowed blanks := by
  constructor
  · intro prev text hit hhit
    rw [blanks_eq_some.mp hhit]
    exact List.takeWhile_append_dropWhile.symm
  · intro prev text hit hhit c hmem
    rw [blanks_eq_some.mp hhit] at hmem
    exact h c (mem_takeWhile hmem)

theorem covers_someBlanks
    (h : forall c : Char, isBlank c = true -> allowed c) :
    Covers allowed someBlanks :=
  (covers_someWhere h).bind fun _ => covers_pure ()

theorem covers_letters
    {list : List Char}
    (h : forall letter : Char, letter ∈ list ->
      forall c : Char, sameLetter letter c = true -> allowed c) :
    Covers allowed (letters list) := by
  induction list with
  | nil => exact covers_pure ()
  | cons letter list ih =>
      have hfirst := covers_charWhere (h letter List.mem_cons_self)
      have hrest := ih fun other hmem => h other (List.mem_cons_of_mem letter hmem)
      exact hfirst.bind fun _ => hrest

theorem covers_word
    {text : String}
    (h : forall letter : Char, letter ∈ text.toList ->
      forall c : Char, sameLetter letter c = true -> allowed c) :
    Covers allowed (word text) :=
  covers_letters h

theorem Covers.orElse
    {first second : Pattern α} (hfirst : Covers allowed first)
    (hsecond : Covers allowed second) :
    Covers allowed (orElse first second) := by
  constructor
  · intro prev text hit h
    rcases orElse_eq_some.mp h with hleft | ⟨_, hright⟩
    · exact hfirst.split hleft
    · exact hsecond.split hright
  · intro prev text hit h
    rcases orElse_eq_some.mp h with hleft | ⟨_, hright⟩
    · exact hfirst.chars hleft
    · exact hsecond.chars hright

theorem covers_anyOf
    {patterns : List (Pattern α)}
    (h : forall pattern : Pattern α, pattern ∈ patterns -> Covers allowed pattern) :
    Covers allowed (anyOf patterns) := by
  induction patterns with
  | nil =>
      constructor
      · intro prev text hit hhit
        cases hhit
      · intro prev text hit hhit
        cases hhit
  | cons pattern patterns ih =>
      have hrest := ih fun other hmem => h other (List.mem_cons_of_mem pattern hmem)
      exact (h pattern List.mem_cons_self).orElse hrest

theorem Covers.perhaps
    {pattern : Pattern α} (h : Covers allowed pattern) :
    Covers allowed (perhaps pattern) :=
  (h.bind fun value => covers_pure (some value)).orElse (covers_pure none)

theorem covers_place
    {pattern : Pattern Unit}
    (h : forall (prev : Option Char) (text : List Char) (hit : Hit Unit),
      pattern prev text = some hit -> hit = ⟨(), [], text⟩) :
    Covers allowed pattern := by
  constructor
  · intro prev text hit hhit
    rw [h prev text hit hhit]
    rfl
  · intro prev text hit hhit c hmem
    rw [h prev text hit hhit] at hmem
    cases hmem

theorem covers_atStart :
    Covers allowed atStart :=
  covers_place fun _ _ _ h => (atStart_eq_some.mp h).2

theorem covers_boundary :
    Covers allowed boundary := by
  apply covers_place
  intro prev text hit h
  unfold boundary at h
  split at h
  · exact (Option.some.inj h).symm
  · cases h

theorem covers_boundedWords
    {words : List String} (hblank : forall c : Char, isBlank c = true -> allowed c)
    (hletter : forall word : String, word ∈ words -> forall letter : Char, letter ∈ word.toList ->
      forall c : Char, sameLetter letter c = true -> allowed c) :
    Covers allowed (boundedWords words) := by
  have hmore : forall list : List String, (forall word : String, word ∈ list -> word ∈ words) ->
      Covers allowed (boundedWords.more list) := by
    intro list
    induction list with
    | nil =>
        intro _
        exact covers_boundary
    | cons next list ih =>
        intro hsubset
        have hrest := ih fun word hmem => hsubset word (List.mem_cons_of_mem next hmem)
        have hnext : Covers allowed (word next) :=
          covers_word (hletter next (hsubset next List.mem_cons_self))
        exact (covers_someBlanks hblank).bind fun _ => hnext.bind fun _ => hrest
  cases words with
  | nil => exact covers_boundary
  | cons first rest =>
      have hfirst : Covers allowed (word first) := covers_word (hletter first List.mem_cons_self)
      have hrest := hmore rest fun word hmem => List.mem_cons_of_mem first hmem
      exact covers_boundary.bind fun _ => hfirst.bind fun _ => hrest

end Covers

/-!
## Search

A search finds the leftmost place where a pattern fits.
-/

theorem getLast?_cons_or (c : α) (front : List α) (prev : Option α) :
    (c :: front).getLast?.or prev = front.getLast?.or (some c) := by
  cases front with
  | nil => rfl
  | cons d front =>
      rw [List.getLast?_cons_cons]
      cases hfront : (d :: front).getLast? with
      | none => exact absurd (List.getLast?_eq_none_iff.mp hfront) (List.cons_ne_nil _ _)
      | some last => rfl

theorem searchFrom_eq_none
    {pattern : Pattern α} {prev : Option Char} {text : List Char}
    (h : searchFrom pattern prev text = none) {front back : List Char}
    (htext : text = front ++ back) :
    pattern (front.getLast?.or prev) back = none := by
  induction text generalizing prev front with
  | nil =>
      rcases List.append_eq_nil_iff.mp htext.symm with ⟨hfront, hback⟩
      rw [hfront, hback]
      exact Option.map_eq_none_iff.mp h
  | cons c rest ih =>
      rw [searchFrom] at h
      cases hhit : pattern prev (c :: rest) with
      | some hit =>
          rw [hhit] at h
          cases h
      | none =>
          rw [hhit] at h
          cases front with
          | nil =>
              rw [List.nil_append] at htext
              rw [← htext]
              exact hhit
          | cons d front =>
              rw [List.cons_append] at htext
              injection htext with hc hrest
              rw [← hc, getLast?_cons_or]
              exact ih (Option.map_eq_none_iff.mp h) hrest

theorem searchFrom_eq_some
    {allowed : Char -> Prop} {pattern : Pattern α} (hcovers : Covers allowed pattern)
    {prev : Option Char} {text : List Char} {found : Match α}
    (h : searchFrom pattern prev text = some found) :
    text = found.before ++ found.text ++ found.after ∧
      pattern (found.before.getLast?.or prev) (found.text ++ found.after) =
        some ⟨found.value, found.text, found.after⟩ ∧
      forall front back : List Char, text = front ++ back ->
        front.length < found.before.length -> pattern (front.getLast?.or prev) back = none := by
  induction text generalizing prev found with
  | nil =>
      rw [searchFrom, Option.map_eq_some_iff] at h
      rcases h with ⟨hit, hhit, hfound⟩
      have hsplit := hcovers.split hhit
      rw [← hfound]
      refine ⟨hsplit, ?_, ?_⟩
      · rw [← hsplit]
        exact hhit
      · intro front back _ hlt
        exact absurd hlt (Nat.not_lt_zero _)
  | cons c rest ih =>
      rw [searchFrom] at h
      cases hhit : pattern prev (c :: rest) with
      | some hit =>
          rw [hhit] at h
          have hsplit := hcovers.split hhit
          rw [← Option.some.inj h]
          refine ⟨hsplit, ?_, ?_⟩
          · rw [← hsplit]
            exact hhit
          · intro front back _ hlt
            exact absurd hlt (Nat.not_lt_zero _)
      | none =>
          rw [hhit] at h
          rcases Option.map_eq_some_iff.mp h with ⟨later, hlater, hfound⟩
          rcases ih hlater with ⟨hsplit, hfits, hleftmost⟩
          rw [← hfound]
          refine ⟨?_, ?_, ?_⟩
          · rw [hsplit]
            rfl
          · rw [getLast?_cons_or]
            exact hfits
          · intro front back htext hlt
            cases front with
            | nil =>
                rw [List.nil_append] at htext
                rw [← htext]
                exact hhit
            | cons d front =>
                rw [List.cons_append] at htext
                injection htext with hc hrest
                rw [← hc, getLast?_cons_or]
                exact hleftmost front back hrest (Nat.lt_of_succ_lt_succ hlt)

/-- Where a pattern was found, and that it fits nowhere to the left. -/
structure FoundAt (pattern : Pattern α) (text : List Char) (found : Match α) : Prop where
  split : text = found.before ++ found.text ++ found.after
  fits : pattern found.before.getLast? (found.text ++ found.after) =
    some ⟨found.value, found.text, found.after⟩
  leftmost : forall front back : List Char, text = front ++ back ->
    front.length < found.before.length -> pattern front.getLast? back = none

theorem foundAt_of_search
    {allowed : Char -> Prop} {pattern : Pattern α} (hcovers : Covers allowed pattern)
    {text : List Char} {found : Match α} (h : pattern.search text = some found) :
    FoundAt pattern text found := by
  rcases searchFrom_eq_some hcovers h with ⟨hsplit, hfits, hleftmost⟩
  rw [Option.or_none] at hfits
  refine ⟨hsplit, hfits, ?_⟩
  intro front back htext hlt
  have hnone := hleftmost front back htext hlt
  rw [Option.or_none] at hnone
  exact hnone

end Pattern

end CatalogSearch
