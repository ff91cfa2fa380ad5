import CatalogSearch.Proofs.Query.Hits
import CatalogSearch.Proofs.Query.PriceGrammar

/-!
# Findings of patterns

A pattern that fits at a place leads to the place behind the part that it covers.  The findings
of a composed pattern are chains of findings of its parts; white space is always covered as far
as it goes, which makes no difference where something solid follows.
-/

namespace CatalogSearch

open Text

namespace Place

/-!
## Parts of a text
-/

@[simp] theorem Reads.nil_iff {first last : Place} :
    first.Reads [] last <-> last = first := by
  constructor
  · intro h
    ext1
    · rw [h.before, List.append_nil]
    · rw [h.rest, List.nil_append]
  · intro h
    rw [h]
    exact ⟨(List.append_nil _).symm, rfl⟩

theorem Reads.trans
    {first middle last : Place} {front back : List Char} (hfront : first.Reads front middle)
    (hback : middle.Reads back last) :
    first.Reads (front ++ back) last := by
  constructor
  · rw [hback.before, hfront.before, List.append_assoc]
  · rw [hfront.rest, hback.rest, List.append_assoc]

theorem Reads.split
    {first last : Place} {front back : List Char} (h : first.Reads (front ++ back) last) :
    exists middle : Place, first.Reads front middle ∧ middle.Reads back last := by
  refine ⟨⟨first.before ++ front, back ++ last.rest⟩, ⟨rfl, ?_⟩, ⟨?_, rfl⟩⟩
  · rw [h.rest, List.append_assoc]
  · rw [h.before, List.append_assoc]

theorem Reads.text_eq
    {first last : Place} {part : List Char} (h : first.Reads part last) :
    last.text = first.text := by
  unfold Place.text
  rw [h.before, h.rest, List.append_assoc]

theorem Reads.head_mem
    {first last other : Place} {part : List Char} (h : first.Reads part last)
    (htext : other.text = first.text) (hle : first.before.length ≤ other.before.length)
    (hlt : other.before.length < last.before.length) {c : Char}
    (hhead : other.rest.head? = some c) :
    c ∈ part := by
  have hother : other.text[other.before.length]? = some c := by
    unfold Place.text
    rw [List.getElem?_append_right (Nat.le_refl _), Nat.sub_self, ← List.head?_eq_getElem?]
    exact hhead
  rw [h.before, List.length_append] at hlt
  have hwithin : other.before.length - first.before.length < part.length := by omega
  unfold Place.text at htext
  unfold Place.text at hother
  rw [htext, h.rest, List.getElem?_append_right hle, List.getElem?_append_left hwithin] at hother
  exact List.mem_of_getElem? hother

theorem eq_of_text
    {place other : Place} (htext : other.text = place.text)
    (hlength : other.before.length = place.before.length) :
    other = place := by
  rcases List.append_inj htext hlength with ⟨hbefore, hrest⟩
  ext1
  · exact hbefore
  · exact hrest

theorem readsBlanks_refl (place : Place) :
    place.ReadsBlanks place :=
  ⟨[], Reads.nil_iff.mpr rfl, fun _ hmem => absurd hmem List.not_mem_nil⟩

theorem ReadsBlanks.trans
    {first middle last : Place} (hfront : first.ReadsBlanks middle)
    (hback : middle.ReadsBlanks last) :
    first.ReadsBlanks last := by
  rcases hfront with ⟨front, hfront, hfrontBlank⟩
  rcases hback with ⟨back, hback, hbackBlank⟩
  refine ⟨front ++ back, hfront.trans hback, ?_⟩
  intro c hmem
  rcases List.mem_append.mp hmem with hmem | hmem
  · exact hfrontBlank c hmem
  · exact hbackBlank c hmem

def Next (class? : Char -> Prop) (place : Place) : Prop :=
  exists (c : Char) (rest : List Char), place.rest = c :: rest ∧ class? c

theorem Next.mono
    {class? wider : Char -> Prop} {place : Place} (h : place.Next class?)
    (hwider : forall c : Char, class? c -> wider c) :
    place.Next wider := by
  rcases h with ⟨c, rest, hrest, hc⟩
  exact ⟨c, rest, hrest, hwider c hc⟩

theorem Next.of_head
    {class? : Char -> Prop} {place : Place} {c : Char} (h : place.Next class?)
    (hhead : place.rest.head? = some c) :
    class? c := by
  rcases h with ⟨d, rest, hrest, hd⟩
  rw [hrest, List.head?_cons] at hhead
  rw [← Option.some.inj hhead]
  exact hd

/-- Behind white space the class of the next character is that before it if blanks belong to it. -/
theorem Next.before_blanks
    {first last : Place} {class? : Char -> Prop} (h : last.Next class?)
    (hblanks : first.ReadsBlanks last) (hblank : forall c : Char, isBlank c = true -> class? c) :
    first.Next class? := by
  rcases hblanks with ⟨part, hreads, hpart⟩
  cases part with
  | nil =>
      rw [← Reads.nil_iff.mp hreads]
      exact h
  | cons c part => exact ⟨c, _, hreads.rest, hblank c (hpart c List.mem_cons_self)⟩

theorem Next.before_dollar
    {first last : Place} {class? : Char -> Prop} (h : last.Next class?)
    (hdollar : first.ReadsDollar last) (hclass : class? '$') :
    first.Next class? := by
  rcases hdollar with hplace | hreads
  · rw [← hplace]
    exact h
  · exact ⟨'$', _, hreads.rest, hclass⟩

theorem Next.before_gap
    {first last : Place} {class? : Char -> Prop} (h : last.Next class?)
    (hgap : first.ReadsGap last) (hblank : forall c : Char, isBlank c = true -> class? c)
    (hdollar : class? '$') :
    first.Next class? := by
  cases hgap with
  | intro ha hb hc =>
      exact ((h.before_blanks hc hblank).before_dollar hb hdollar).before_blanks ha hblank

theorem Reads.next
    {first last : Place} {c : Char} {part : List Char} (h : first.Reads (c :: part) last)
    {class? : Char -> Prop} (hc : class? c) :
    first.Next class? :=
  ⟨c, part ++ last.rest, h.rest, hc⟩

/-- What begins with a run that is not empty begins with a character of its class. -/
theorem Reads.next_run
    {first last : Place} {run more : List Char} (h : first.Reads (run ++ more) last)
    (hne : run ≠ []) {class? : Char -> Prop} (hrun : forall c : Char, c ∈ run -> class? c) :
    first.Next class? := by
  cases run with
  | nil => exact absurd rfl hne
  | cons c run => exact Reads.next h (hrun c List.mem_cons_self)

end Place

namespace Pattern

variable {α β : Type}

def Finds (pattern : Pattern α) (first : Place) (value : α) (last : Place) : Prop :=
  exists part : List Char, last.before = first.before ++ part ∧
    pattern first.before.getLast? first.rest = some ⟨value, part, last.rest⟩

theorem finds_of_hit
    {pattern : Pattern α} {first : Place} {hit : Hit α}
    (h : pattern first.before.getLast? first.rest = some hit) :
    Finds pattern first hit.value ⟨first.before ++ hit.text, hit.rest⟩ :=
  ⟨hit.text, rfl, h⟩

theorem Finds.unique
    {pattern : Pattern α} {first last last' : Place} {value value' : α}
    (h : Finds pattern first value last) (h' : Finds pattern first value' last') :
    value' = value ∧ last' = last := by
  rcases h with ⟨part, hbefore, hhit⟩
  rcases h' with ⟨part', hbefore', hhit'⟩
  have heq := Option.some.inj (hhit'.symm.trans hhit)
  injection heq with hvalue hpart hrest
  refine ⟨hvalue, ?_⟩
  ext1
  · rw [hbefore', hbefore, hpart]
  · exact hrest

theorem eq_none_iff_not_finds
    {pattern : Pattern α} {place : Place} :
    pattern place.before.getLast? place.rest = none <->
      forall (value : α) (last : Place), ¬ Finds pattern place value last := by
  constructor
  · intro h value last hfinds
    rcases hfinds with ⟨part, _, hhit⟩
    rw [h] at hhit
    cases hhit
  · intro h
    cases hhit : pattern place.before.getLast? place.rest with
    | none => rfl
    | some hit => exact absurd (finds_of_hit hhit) (h _ _)

/-!
## Findings of the formers
-/

theorem finds_pure
    {value value' : α} {first last : Place} :
    Finds (pure value) first value' last <-> value' = value ∧ last = first := by
  unfold Finds
  constructor
  · intro h
    rcases h with ⟨part, hbefore, hhit⟩
    have heq := pure_eq_some.mp hhit
    injection heq with hvalue hpart hrest
    rw [hpart] at hbefore
    exact ⟨hvalue, Place.Reads.nil_iff.mp ⟨hbefore, hrest.symm⟩⟩
  · intro h
    rw [h.1, h.2]
    exact ⟨[], (List.append_nil _).symm, rfl⟩

theorem finds_bind
    {pattern : Pattern α} {next : α -> Pattern β} {first last : Place} {value : β} :
    Finds (pattern >>= next) first value last <->
      exists (lead : α) (middle : Place),
        Finds pattern first lead middle ∧ Finds (next lead) middle value last := by
  constructor
  · intro h
    rcases h with ⟨part, hbefore, hhit⟩
    rcases bind_parts hhit with ⟨lead, tail, hlead, htail, hvalue, htext, hrest⟩
    refine ⟨lead.value, _, finds_of_hit hlead, tail.text, ?_, ?_⟩
    · rw [hbefore, List.append_assoc]
      exact congrArg (first.before ++ ·) htext
    · rw [List.getLast?_append, htail, show value = tail.value from hvalue,
        show last.rest = tail.rest from hrest]
  · intro h
    rcases h with ⟨lead, middle, ⟨front, hfront, hlead⟩, ⟨back, hback, htail⟩⟩
    refine ⟨front ++ back, ?_, ?_⟩
    · rw [hback, hfront, List.append_assoc]
    · rw [hfront, List.getLast?_append] at htail
      exact bind_some hlead htail

theorem finds_charWhere
    {allowed : Char -> Bool} {first last : Place} {c : Char} :
    Finds (charWhere allowed) first c last <-> allowed c = true ∧ first.Reads [c] last := by
  constructor
  · intro h
    rcases h with ⟨part, hbefore, hhit⟩
    rcases charWhere_eq_some.mp hhit with ⟨d, rest, htext, hd, heq⟩
    injection heq with hvalue hpart hrest
    rw [hpart, ← hvalue] at hbefore
    rw [← hvalue, ← hrest] at htext
    exact ⟨hvalue ▸ hd, hbefore, htext⟩
  · intro h
    exact ⟨[c], h.2.before, charWhere_eq_some.mpr ⟨c, last.rest, h.2.rest, h.1, rfl⟩⟩

theorem not_finds_charWhere
    {allowed : Char -> Bool} {place : Place} :
    (forall (c : Char) (last : Place), ¬ Finds (charWhere allowed) place c last) <->
      forall c : Char, place.rest.head? = some c -> allowed c = false := by
  rw [← eq_none_iff_not_finds]
  unfold charWhere
  cases place.rest with
  | nil => simp
  | cons c rest => simp

theorem finds_symbol
    {symbol c : Char} {first last : Place} :
    Finds (charWhere (· == symbol)) first c last <-> c = symbol ∧ first.Reads [symbol] last := by
  rw [finds_charWhere, beq_iff_eq]
  constructor
  · intro h
    exact ⟨h.1, h.1 ▸ h.2⟩
  · intro h
    exact ⟨h.1, h.1.symm ▸ h.2⟩

theorem finds_someWhere
    {allowed : Char -> Bool} {first last : Place} {run : List Char} :
    Finds (someWhere allowed) first run last <->
      first.Reads run last ∧ run ≠ [] ∧ (forall c : Char, c ∈ run -> allowed c = true) ∧
        forall c : Char, last.rest.head? = some c -> allowed c = false := by
  constructor
  · intro h
    rcases h with ⟨part, hbefore, hhit⟩
    rcases someWhere_eq_some.mp hhit with ⟨hne, heq⟩
    injection heq with hvalue hpart hrest
    rw [hpart, ← hvalue] at hbefore
    rw [← hvalue] at hne
    refine ⟨⟨hbefore, ?_⟩, hne, ?_, ?_⟩
    · rw [hvalue, hrest, List.takeWhile_append_dropWhile]
    · intro c hmem
      rw [hvalue] at hmem
      exact mem_takeWhile hmem
    · intro c hhead
      rw [hrest] at hhead
      exact head_dropWhile hhead
  · intro h
    rcases h with ⟨hreads, hne, hrun, hends⟩
    refine ⟨run, hreads.before, ?_⟩
    rw [hreads.rest, someWhere_eq_some, (takeWhile_run hrun hends).1, (takeWhile_run hrun hends).2]
    exact ⟨hne, rfl⟩

theorem finds_blanks
    {first last : Place} {value : Unit} :
    Finds blanks first value last <->
      first.ReadsBlanks last ∧
        forall c : Char, last.rest.head? = some c -> isBlank c = false := by
  constructor
  · intro h
    rcases h with ⟨part, hbefore, hhit⟩
    have heq := blanks_eq_some.mp hhit
    injection heq with _ hpart hrest
    refine ⟨⟨part, ⟨hbefore, ?_⟩, ?_⟩, ?_⟩
    · rw [hpart, hrest, List.takeWhile_append_dropWhile]
    · intro c hmem
      rw [hpart] at hmem
      exact mem_takeWhile hmem
    · intro c hhead
      rw [hrest] at hhead
      exact head_dropWhile hhead
  · intro h
    rcases h with ⟨⟨part, hreads, hblank⟩, hends⟩
    refine ⟨part, hreads.before, ?_⟩
    rw [hreads.rest, blanks_eq_some, (takeWhile_run hblank hends).1,
      (takeWhile_run hblank hends).2]

theorem exists_finds_blanks (first : Place) :
    exists last : Place, Finds blanks first () last := by
  have hhit : blanks first.before.getLast? first.rest =
      some ⟨(), first.rest.takeWhile isBlank, first.rest.dropWhile isBlank⟩ :=
    blanks_eq_some.mpr rfl
  exact ⟨_, finds_of_hit hhit⟩

theorem finds_perhaps
    {pattern : Pattern α} {first last : Place} {value : Option α} :
    Finds (perhaps pattern) first value last <->
      (exists inner : α, value = some inner ∧ Finds pattern first inner last) ∨
        value = none ∧ last = first ∧
          forall (inner : α) (other : Place), ¬ Finds pattern first inner other := by
  rw [← eq_none_iff_not_finds]
  constructor
  · intro h
    rcases h with ⟨part, hbefore, hhit⟩
    rcases perhaps_eq_some.mp hhit with ⟨inner, hinner, heq⟩ | ⟨hnone, heq⟩
    · injection heq with hvalue hpart hrest
      left
      refine ⟨inner.value, hvalue, part, hbefore, ?_⟩
      rw [hinner, hpart, hrest]
    · injection heq with hvalue hpart hrest
      rw [hpart] at hbefore
      exact Or.inr ⟨hvalue, Place.Reads.nil_iff.mp ⟨hbefore, hrest.symm⟩, hnone⟩
  · intro h
    rcases h with ⟨inner, hvalue, part, hbefore, hhit⟩ | ⟨hvalue, hlast, hnone⟩
    · exact ⟨part, hbefore, perhaps_eq_some.mpr (Or.inl ⟨_, hhit, by rw [hvalue]⟩)⟩
    · refine ⟨[], ?_, perhaps_eq_some.mpr (Or.inr ⟨hnone, ?_⟩)⟩
      · rw [hlast, List.append_nil]
      · rw [hvalue, hlast]

theorem finds_orElse
    {pattern other : Pattern α} {first last : Place} {value : α} :
    Finds (orElse pattern other) first value last <->
      Finds pattern first value last ∨
        (forall (value' : α) (last' : Place), ¬ Finds pattern first value' last') ∧
          Finds other first value last := by
  rw [← eq_none_iff_not_finds]
  unfold Finds
  constructor
  · intro h
    rcases h with ⟨part, hbefore, hhit⟩
    rcases orElse_eq_some.mp hhit with hhit | ⟨hnone, hhit⟩
    · exact Or.inl ⟨part, hbefore, hhit⟩
    · exact Or.inr ⟨hnone, part, hbefore, hhit⟩
  · intro h
    rcases h with ⟨part, hbefore, hhit⟩ | ⟨hnone, part, hbefore, hhit⟩
    · exact ⟨part, hbefore, orElse_eq_some.mpr (Or.inl hhit)⟩
    · exact ⟨part, hbefore, orElse_eq_some.mpr (Or.inr ⟨hnone, hhit⟩)⟩

theorem exists_finds_of_anyOf
    {patterns : List (Pattern α)} {first last : Place} {value : α}
    (h : Finds (anyOf patterns) first value last) :
    exists pattern : Pattern α, pattern ∈ patterns ∧ Finds pattern first value last := by
  induction patterns with
  | nil =>
      rcases h with ⟨_, _, hhit⟩
      cases hhit
  | cons pattern patterns ih =>
      rcases finds_orElse.mp h with hfirst | ⟨_, hrest⟩
      · exact ⟨pattern, List.mem_cons_self, hfirst⟩
      · rcases ih hrest with ⟨other, hmem, hother⟩
        exact ⟨other, List.mem_cons_of_mem pattern hmem, hother⟩

theorem finds_letters
    {list : List Char} {first last : Place} {value : Unit} :
    Finds (letters list) first value last <->
      exists part : List Char, first.Reads part last ∧
        List.Forall₂ (fun letter c => sameLetter letter c = true) list part := by
  induction list generalizing first with
  | nil =>
      have hnil : Finds (letters []) first value last <-> value = () ∧ last = first := finds_pure
      rw [hnil]
      constructor
      · intro h
        exact ⟨[], Place.Reads.nil_iff.mpr h.2, .nil⟩
      · intro h
        rcases h with ⟨part, hreads, hsame⟩
        cases hsame
        exact ⟨rfl, Place.Reads.nil_iff.mp hreads⟩
  | cons letter list ih =>
      have hcons : Finds (letters (letter :: list)) first value last <->
          Finds (charWhere (sameLetter letter) >>= fun _ => letters list) first value last :=
        Iff.rfl
      rw [hcons, finds_bind]
      constructor
      · intro h
        rcases h with ⟨c, middle, hc, hrest⟩
        rcases finds_charWhere.mp hc with ⟨hsame, hreads⟩
        rcases ih.mp hrest with ⟨part, hpart, hlist⟩
        exact ⟨c :: part, hreads.trans hpart, .cons hsame hlist⟩
      · intro h
        rcases h with ⟨part, hreads, hsame⟩
        cases hsame with
        | @cons _ c _ tail hc hlist =>
            have happend : first.Reads ([c] ++ tail) last := hreads
            rcases happend.split with ⟨middle, hlead, htail⟩
            exact ⟨c, middle, finds_charWhere.mpr ⟨hc, hlead⟩, ih.mpr ⟨tail, htail, hlist⟩⟩

/-!
## Optional parts and white space

White space is covered as far as it goes and an optional part wherever it fits.  Where the next
part begins with a character of another kind, every way of reading them is the one that the
patterns take.
-/

def Opens (class? : Char -> Prop) (pattern : Pattern α) : Prop :=
  forall {first last : Place} {value : α}, Finds pattern first value last -> first.Next class?

theorem finds_blanks_of_next
    {first last : Place} (h : first.ReadsBlanks last)
    (hnext : last.Next fun c => isBlank c = false) :
    Finds blanks first () last :=
  finds_blanks.mpr ⟨h, fun _ hhead => hnext.of_head hhead⟩

theorem finds_blanks_next
    {next : Pattern α} (hnext : Opens (fun c => isBlank c = false) next) {first last : Place}
    {value : α} :
    (exists (blank : Unit) (middle : Place),
        Finds blanks first blank middle ∧ Finds next middle value last) <->
      exists middle : Place, first.ReadsBlanks middle ∧ Finds next middle value last := by
  constructor
  · intro h
    rcases h with ⟨_, middle, hblanks, hlast⟩
    exact ⟨middle, (finds_blanks.mp hblanks).1, hlast⟩
  · intro h
    rcases h with ⟨middle, hblanks, hlast⟩
    exact ⟨(), middle, finds_blanks_of_next hblanks (hnext hlast), hlast⟩

theorem finds_perhaps_none
    {pattern : Pattern α} {marks : Char -> Prop} (hopens : Opens marks pattern) {place : Place}
    (h : place.Next fun c => ¬ marks c) :
    Finds (perhaps pattern) place none place := by
  refine finds_perhaps.mpr (Or.inr ⟨rfl, rfl, ?_⟩)
  intro value last hfinds
  rcases hopens hfinds with ⟨c, rest, hrest, hc⟩
  exact h.of_head (by rw [hrest]; rfl) hc

def Between (pattern : Pattern α) (first : Place) : Option α -> Place -> Prop
  | none, last => last = first
  | some value, last => Finds pattern first value last

theorem between_of_finds
    {pattern : Pattern α} {first last : Place} {value : Option α}
    (h : Finds (perhaps pattern) first value last) :
    Between pattern first value last := by
  rcases finds_perhaps.mp h with ⟨inner, hvalue, hfinds⟩ | ⟨hvalue, hplace, _⟩
  · rw [hvalue]
    exact hfinds
  · rw [hvalue]
    exact hplace

/-- White space with perhaps something solid in it, before something else that is solid. -/
theorem finds_around
    {inner : Pattern α} {next : Pattern β} {marks : Char -> Prop}
    (hinner : Opens marks inner) (hmarks : forall c : Char, marks c -> isBlank c = false)
    (hnext : Opens (fun c => isBlank c = false ∧ ¬ marks c) next)
    {first last : Place} {found : Option α} {value : β} :
    (exists (blank : Unit) (a : Place), Finds blanks first blank a ∧
        exists b : Place, Finds (perhaps inner) a found b ∧
          exists (blank' : Unit) (c : Place), Finds blanks b blank' c ∧ Finds next c value last) <->
      exists a b c : Place, first.ReadsBlanks a ∧ Between inner a found b ∧ b.ReadsBlanks c ∧
        Finds next c value last := by
  constructor
  · intro h
    rcases h with ⟨_, a, ha, b, hb, _, c, hc, hlast⟩
    exact ⟨a, b, c, (finds_blanks.mp ha).1, between_of_finds hb, (finds_blanks.mp hc).1, hlast⟩
  · intro h
    rcases h with ⟨a, b, c, ha, hb, hc, hlast⟩
    have hsolid := (hnext hlast).mono fun _ h => h.1
    cases found with
    | none =>
        -- without the inner part the two stretches of white space are one
        rw [show b = a from hb] at hc
        have hnone := finds_perhaps_none hinner ((hnext hlast).mono fun _ h => h.2)
        exact ⟨(), c, finds_blanks_of_next (ha.trans hc) hsolid, c, hnone, (), c,
          finds_blanks_of_next c.readsBlanks_refl hsolid, hlast⟩
    | some found =>
        have hsome := finds_perhaps.mpr (Or.inl ⟨found, rfl, hb⟩)
        exact ⟨(), a, finds_blanks_of_next ha ((hinner hb).mono hmarks), b, hsome, (), c,
          finds_blanks_of_next hc hsolid, hlast⟩

/-!
## Search

A search finds the leftmost place where a pattern fits.
-/

theorem not_finds_of_search
    {pattern : Pattern α} {text : List Char} (h : pattern.search text = none)
    {place : Place} (htext : place.text = text) (value : α) (last : Place) :
    ¬ Finds pattern place value last := by
  have hnone := searchFrom_eq_none h htext.symm
  rw [Option.or_none] at hnone
  exact eq_none_iff_not_finds.mp hnone value last

theorem finds_of_search
    {allowed : Char -> Prop} {pattern : Pattern α} (hcovers : Covers allowed pattern)
    {text : List Char} {found : Match α} (h : pattern.search text = some found) :
    exists first last : Place, first.text = text ∧ Finds pattern first found.value last ∧
      forall (other last' : Place) (value : α), other.text = text ->
        other.before.length < first.before.length -> ¬ Finds pattern other value last' := by
  have hfound := foundAt_of_search hcovers h
  refine ⟨⟨found.before, found.text ++ found.after⟩, ⟨found.before ++ found.text, found.after⟩,
    ?_, ⟨found.text, rfl, hfound.fits⟩, ?_⟩
  · unfold Place.text
    rw [hfound.split, List.append_assoc]
  · intro other last' value htext hlt
    exact eq_none_iff_not_finds.mp (hfound.leftmost _ _ htext.symm hlt) value last'

end Pattern

end CatalogSearch
