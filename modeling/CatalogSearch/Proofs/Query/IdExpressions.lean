import CatalogSearch.Proofs.Query.PriceConditions
import CatalogSearch.Proofs.Query.PriceForms

/-!
# Ids in a query

An id stands behind its mark, and the mark behind white space or at the start of the text.  A
search finds the leftmost mark with an id behind it.  Marks do not overlap, so that which mark
that is does not depend on what the id is; and nothing of an id is read as anything else, for
the text of the expression is cut out before the rest of the query is read.
-/

namespace CatalogSearch

open Text

namespace Place

/-!
## The grammar of ids
-/

def ReadsIdLead (first last : Place) : Prop :=
  first.before = [] ∧ last = first ∨
    exists blank : Char, isBlank blank = true ∧ first.Reads [blank] last

def ReadsIdWord (first last : Place) : Prop :=
  exists part : List Char, first.Reads part last ∧
    List.Forall₂ (fun letter c => Pattern.sameLetter letter c = true) "id:".toList part

inductive ReadsIdMark (first last : Place) : Prop where
  | intro {a b : Place} :
      first.ReadsIdLead a -> a.ReadsIdWord b -> b.ReadsBlanks last -> ReadsIdMark first last

structure ReadsToken (first : Place) (token : List Char) (last : Place) : Prop where
  reads : first.Reads token last
  ne_nil : token ≠ []
  chars : forall c : Char, c ∈ token -> Pattern.isIdChar c = true
  ends : forall c : Char, last.rest.head? = some c -> Pattern.isIdChar c = false

variable {first middle last : Place} {token : List Char}

theorem ReadsToken.next (h : first.ReadsToken token last) :
    first.Next fun c => Pattern.isIdChar c = true := by
  cases token with
  | nil => exact absurd rfl h.ne_nil
  | cons c token => exact h.reads.next (h.chars c List.mem_cons_self)

theorem exists_readsToken (h : first.Next fun c => Pattern.isIdChar c = true) :
    exists (token : List Char) (last : Place), first.ReadsToken token last := by
  rcases h with ⟨c, rest, hrest, hc⟩
  have hne : first.rest.takeWhile Pattern.isIdChar ≠ [] := by
    rw [hrest, List.takeWhile_cons_of_pos hc]
    exact List.cons_ne_nil _ _
  have hhit : Pattern.someWhere Pattern.isIdChar first.before.getLast? first.rest =
      some ⟨first.rest.takeWhile Pattern.isIdChar, first.rest.takeWhile Pattern.isIdChar,
        first.rest.dropWhile Pattern.isIdChar⟩ :=
    Pattern.someWhere_eq_some.mpr ⟨hne, rfl⟩
  rcases Pattern.finds_someWhere.mp (Pattern.finds_of_hit hhit) with ⟨hreads, _, hchars, hends⟩
  exact ⟨_, _, hreads, hne, hchars, hends⟩

theorem ReadsIdWord.opens (h : first.ReadsIdWord last) :
    exists (c : Char) (part : List Char), isBlank c = false ∧ first.Reads (c :: part) last := by
  rcases h with ⟨part, hreads, hletters⟩
  cases part with
  | nil => cases hletters
  | cons c part =>
      exact ⟨c, part, PriceForm.solid_of_letters hletters (by decide) List.mem_cons_self, hreads⟩

/-!
## Marks stand apart
-/

theorem ReadsIdMark.blank_behind
    {front back : List Char} {blank : Char} (h : first.ReadsIdMark last)
    (hreads : first.Reads (front ++ blank :: back) last) (hfront : front ≠ [])
    (hblank : isBlank blank = true) {c : Char} (hc : c ∈ back) :
    isBlank c = true := by
  rcases h with ⟨hlead, ⟨word, hword, hletters⟩, gap, hgap, hgapBlank⟩
  have hwordSolid : blank ∉ word := by
    intro hmem
    rw [PriceForm.solid_of_letters hletters (by decide) hmem] at hblank
    cases hblank
  -- behind the lead, a blank lies in the gap or begins it
  have hsplit : forall front' : List Char, front' ++ blank :: back = word ++ gap ->
      isBlank c = true := by
    intro front' heq
    rcases List.append_eq_append_iff.mp heq with ⟨rest, hwordEq, hrest⟩ | ⟨rest, _, hgapEq⟩
    · cases rest with
      | nil =>
          rw [List.nil_append] at hrest
          exact hgapBlank c (hrest ▸ List.mem_cons_of_mem blank hc)
      | cons d rest =>
          rw [hwordEq, ← (List.cons.inj hrest).1] at hwordSolid
          exact absurd (List.mem_append_right front' List.mem_cons_self) hwordSolid
    · apply hgapBlank c
      rw [hgapEq]
      exact List.mem_append_right rest (List.mem_cons_of_mem blank hc)
  rcases hlead with ⟨_, rfl⟩ | ⟨lead, _, hlead⟩
  · exact hsplit front (PriceForm.reads_unique (hword.trans hgap) hreads)
  · have heq := PriceForm.reads_unique (hlead.trans (hword.trans hgap)) hreads
    cases front with
    | nil => exact absurd rfl hfront
    | cons d front => exact hsplit front (List.cons.inj heq).2

theorem ReadsIdMark.reads (h : first.ReadsIdMark last) :
    exists part : List Char, part ≠ [] ∧ first.Reads part last := by
  rcases h with ⟨hlead, hword, gap, hgap, _⟩
  rcases hword.opens with ⟨c, word, _, hword⟩
  rcases hlead with ⟨_, rfl⟩ | ⟨lead, _, hlead⟩
  · exact ⟨_, List.cons_ne_nil _ _, hword.trans hgap⟩
  · exact ⟨_, List.cons_ne_nil _ _, hlead.trans (hword.trans hgap)⟩

theorem ReadsIdMark.text_eq (h : first.ReadsIdMark last) :
    last.text = first.text := by
  rcases h.reads with ⟨part, _, hreads⟩
  exact hreads.text_eq

/-- Of two marks in a text the one that begins first ends first. -/
theorem ReadsIdMark.ends_before
    {first' last' : Place} (h : first.ReadsIdMark last) (h' : first'.ReadsIdMark last')
    (htext : first'.text = first.text) (hlt : first'.before.length < first.before.length) :
    last'.before.length < last.before.length := by
  by_contra hnot
  rcases h'.reads with ⟨part', _, hreads'⟩
  rcases h with ⟨hlead, hword, gap, hgap, _⟩
  rcases hlead with ⟨hstart, _⟩ | ⟨blank, hblank, hlead⟩
  · rw [hstart] at hlt
    exact Nat.not_lt_zero _ hlt
  · -- the blank before the later mark and the letter behind it would both be in the earlier one
    rcases hword.opens with ⟨c, word, hc, hword⟩
    have hlength : first.before.length + 1 < last.before.length := by
      rw [hgap.before, hword.before, hlead.before]
      simp only [List.length_append, List.length_cons, List.length_nil]
      omega
    have hsplit : exists rest : List Char,
        first'.text = (first.before ++ [blank]) ++ c :: rest := by
      rw [htext, ← hlead.text_eq, ← hlead.before, Place.text, hword.rest]
      exact ⟨_, rfl⟩
    rcases hsplit with ⟨rest, hsplit⟩
    have hbeginning : (first.before ++ [blank]).length = first.before.length + 1 :=
      List.length_append
    rcases PriceForm.split_at hreads' hsplit (by omega) (by omega) with
      ⟨left, right, hpart, hleft⟩
    rcases List.eq_nil_or_concat left with rfl | ⟨front, d, rfl⟩
    · rw [List.append_nil] at hleft
      rw [hleft] at hbeginning
      omega
    · rw [List.concat_eq_append, ← List.append_assoc] at hleft
      rcases List.append_inj' hleft rfl with ⟨hfront, hd⟩
      have hd := (List.cons.inj hd).1
      have hne : front ≠ [] := by
        rintro rfl
        rw [hfront, List.append_nil] at hlt
        exact Nat.lt_irrefl _ hlt
      rw [hpart, List.concat_eq_append, ← hd, List.append_assoc, List.singleton_append] at hreads'
      rw [h'.blank_behind hreads' hne hblank List.mem_cons_self] at hc
      cases hc

/-!
## Marks in a longer text
-/

theorem ReadsIdMark.lengthen (h : first.ReadsIdMark last) (tail : List Char) :
    (first.extend tail).ReadsIdMark (last.extend tail) := by
  rcases h with ⟨hlead, ⟨word, hword, hletters⟩, hgap⟩
  refine .intro ?_ ⟨word, hword.lengthen tail, hletters⟩ (hgap.lengthen tail)
  rcases hlead with ⟨hstart, rfl⟩ | ⟨blank, hblank, hlead⟩
  · exact Or.inl ⟨hstart, rfl⟩
  · exact Or.inr ⟨blank, hblank, hlead.lengthen tail⟩

theorem ReadsIdMark.shorten
    {first' : Place} {tail : List Char} (h : first'.ReadsIdMark (last.extend tail)) :
    exists first : Place, first' = first.extend tail ∧ first.ReadsIdMark last := by
  rcases h with ⟨hlead, ⟨word, hword, hletters⟩, hgap⟩
  rcases hgap.shorten with ⟨b, rfl, hgap'⟩
  rcases hword.shorten with ⟨a, rfl, hword'⟩
  rcases hlead with ⟨hstart, heq⟩ | ⟨blank, hblank, hlead⟩
  · exact ⟨a, heq.symm,
      .intro (Or.inl ⟨(congrArg Place.before heq).trans hstart, rfl⟩)
        ⟨word, hword', hletters⟩ hgap'⟩
  · rcases hlead.shorten with ⟨first, hfirst, hlead'⟩
    exact ⟨first, hfirst,
      .intro (Or.inr ⟨blank, hblank, hlead'⟩) ⟨word, hword', hletters⟩ hgap'⟩

theorem ReadsIdMark.of_extend
    (tail : List Char) (h : (first.extend tail).ReadsIdMark (last.extend tail)) :
    first.ReadsIdMark last := by
  rcases h.shorten with ⟨other, hother, hmark⟩
  rcases Place.mk.inj hother with ⟨hbefore, hrest⟩
  rw [Place.ext hbefore (List.append_cancel_right hrest)]
  exact hmark

theorem Next.of_extend
    {class? : Char -> Prop} {tail : List Char} (h : (first.extend tail).Next class?)
    (hne : first.rest ≠ []) (other : List Char) :
    (first.extend other).Next class? := by
  rcases h with ⟨c, rest, hrest, hc⟩
  rcases List.exists_cons_of_ne_nil hne with ⟨d, rest', hcons⟩
  rw [extend_rest, hcons, List.cons_append] at hrest
  refine ⟨c, rest' ++ other, ?_, hc⟩
  rw [extend_rest, hcons, ← (List.cons.inj hrest).1, List.cons_append]

end Place

namespace Pattern

/-!
## The search for an id
-/

variable {first last : Place} {token : List Char}

theorem opens_idToken :
    Opens (fun c => isBlank c = false) (someWhere isIdChar) := by
  intro first last token h
  rcases finds_someWhere.mp h with ⟨hreads, hne, hchars, hends⟩
  have htoken : first.ReadsToken token last := ⟨hreads, hne, hchars, hends⟩
  exact htoken.next.mono fun _ hc => not_isBlank_of_isIdChar hc

theorem finds_markedId :
    Finds markedId first token last <->
      exists b middle : Place, first.ReadsIdWord b ∧ b.ReadsBlanks middle ∧
        middle.ReadsToken token last := by
  unfold markedId word
  simp only [finds_bind, finds_letters, finds_blanks_next opens_idToken]
  constructor
  · rintro ⟨_, b, hword, middle, hgap, htoken⟩
    rcases finds_someWhere.mp htoken with ⟨hreads, hne, hchars, hends⟩
    exact ⟨b, middle, hword, hgap, hreads, hne, hchars, hends⟩
  · rintro ⟨b, middle, hword, hgap, hreads, hne, hchars, hends⟩
    exact ⟨(), b, hword, middle, hgap, finds_someWhere.mpr ⟨hreads, hne, hchars, hends⟩⟩

theorem finds_atStart
    {value : Unit} :
    Finds atStart first value last <-> last = first ∧ first.before = [] := by
  have hcheck : Finds atStart first value last <->
      last = first ∧ first.before.getLast?.isSome = false :=
    finds_check (fun prev _ => prev.isSome) fun prev text => by cases prev <;> rfl
  rw [hcheck, Option.isSome_eq_false_iff, Option.isNone_iff_eq_none, List.getLast?_eq_none_iff]

theorem finds_idExpression :
    Finds idExpression first token last <->
      exists middle : Place, first.ReadsIdMark middle ∧ middle.ReadsToken token last := by
  unfold idExpression
  simp only [finds_orElse, finds_bind, finds_atStart, finds_charWhere, finds_markedId]
  constructor
  · rintro (⟨_, a, ⟨rfl, hstart⟩, b, middle, hword, hgap, htoken⟩ |
      ⟨_, blank, a, ⟨hblank, hlead⟩, b, middle, hword, hgap, htoken⟩)
    · exact ⟨middle, .intro (Or.inl ⟨hstart, rfl⟩) hword hgap, htoken⟩
    · exact ⟨middle, .intro (Or.inr ⟨blank, hblank, hlead⟩) hword hgap, htoken⟩
  · rintro ⟨middle, ⟨⟨hstart, rfl⟩ | ⟨blank, hblank, hlead⟩, hword, hgap⟩, htoken⟩
    · exact Or.inl ⟨(), _, ⟨rfl, hstart⟩, _, middle, hword, hgap, htoken⟩
    · refine Or.inr ⟨?_, blank, _, ⟨hblank, hlead⟩, _, middle, hword, hgap, htoken⟩
      -- a mark at the start of the text begins with no blank
      rintro other last' ⟨_, a, ⟨rfl, _⟩, b, _, hword', _⟩
      rcases hword'.opens with ⟨c, part, hc, hreads⟩
      have hrest := hreads.rest
      rw [hlead.rest] at hrest
      rw [← (List.cons.inj hrest).1, hblank] at hc
      cases hc

theorem search_of_finds
    {α : Type} {allowed : Char -> Prop} {pattern : Pattern α} (hcovers : Covers allowed pattern)
    {first last : Place} {value : α} {part : List Char} (h : Finds pattern first value last)
    (hreads : first.Reads part last)
    (hleftmost : forall (other last' : Place) (value' : α), other.text = first.text ->
      other.before.length < first.before.length -> ¬ Finds pattern other value' last') :
    pattern.search first.text = some ⟨value, first.before, part, last.rest⟩ := by
  cases hsearch : pattern.search first.text with
  | none => exact absurd h (not_finds_of_search hsearch rfl value last)
  | some found =>
      have hfound := foundAt_of_search hcovers hsearch
      have hfinds : Finds pattern ⟨found.before, found.text ++ found.after⟩ found.value
          ⟨found.before ++ found.text, found.after⟩ := ⟨found.text, rfl, hfound.fits⟩
      have htext : Place.text ⟨found.before, found.text ++ found.after⟩ = first.text := by
        rw [hfound.split, List.append_assoc]
        rfl
      rcases Nat.lt_trichotomy found.before.length first.before.length with hlt | heq | hgt
      · exact absurd hfinds (hleftmost _ _ _ htext hlt)
      · have hplace := Place.eq_of_text htext heq
        rw [hplace] at hfinds
        rcases h.unique hfinds with ⟨hvalue, hlast⟩
        have hbefore : found.before = first.before := congrArg Place.before hplace
        have hsame : found.before ++ found.text = found.before ++ part := by
          rw [hbefore, ← hreads.before, ← hlast, ← hbefore]
        have hpart := List.append_cancel_left hsame
        rw [← hvalue, ← hpart, ← hbefore, ← hlast]
      · have hnone := hfound.leftmost first.before first.rest rfl hgt
        exact absurd h (eq_none_iff_not_finds.mp hnone value last)

/-- The leftmost id expression of a text: a mark and an id, and no id behind an earlier mark. -/
structure LeftmostId (before mark token after : List Char) : Prop where
  readsMark : Place.ReadsIdMark ⟨before, mark ++ (token ++ after)⟩
    ⟨before ++ mark, token ++ after⟩
  readsToken : Place.ReadsToken ⟨before ++ mark, token ++ after⟩ token
    ⟨before ++ mark ++ token, after⟩
  leftmost : forall other middle : Place,
    other.text = before ++ (mark ++ (token ++ after)) -> other.before.length < before.length ->
      other.ReadsIdMark middle -> ¬ middle.Next fun c => isIdChar c = true

variable {before mark token after : List Char}

theorem LeftmostId.search (h : LeftmostId before mark token after) :
    idExpression.search (before ++ (mark ++ (token ++ after))) =
      some ⟨token, before, mark ++ token, after⟩ := by
  have hfinds := finds_idExpression.mpr ⟨_, h.readsMark, h.readsToken⟩
  have hreads : Place.Reads ⟨before, mark ++ (token ++ after)⟩ (mark ++ token)
      ⟨before ++ mark ++ token, after⟩ :=
    ⟨List.append_assoc _ _ _, (List.append_assoc _ _ _).symm⟩
  apply search_of_finds covers_idExpression hfinds hreads
  intro other last' value htext hlt hother
  rcases finds_idExpression.mp hother with ⟨middle, hmark, htoken⟩
  exact h.leftmost other middle htext hlt hmark htoken.next

theorem exists_leftmostId
    {text : List Char} {found : Match (List Char)} (h : idExpression.search text = some found) :
    exists mark : List Char, found.text = mark ++ found.value ∧
      text = found.before ++ (mark ++ (found.value ++ found.after)) ∧
        LeftmostId found.before mark found.value found.after := by
  have hfound := foundAt_of_search covers_idExpression h
  have hfinds : Finds idExpression ⟨found.before, found.text ++ found.after⟩ found.value
      ⟨found.before ++ found.text, found.after⟩ := ⟨found.text, rfl, hfound.fits⟩
  rcases finds_idExpression.mp hfinds with ⟨middle, hmark, htoken⟩
  rcases hmark.reads with ⟨mark, _, hreads⟩
  have hpart : found.text = mark ++ found.value :=
    PriceForm.reads_unique (hreads.trans htoken.reads) ⟨rfl, rfl⟩
  have hmiddle : middle = ⟨found.before ++ mark, found.value ++ found.after⟩ :=
    Place.ext hreads.before htoken.reads.rest
  rw [hpart, List.append_assoc, hmiddle] at hmark
  rw [hpart, hmiddle, ← List.append_assoc] at htoken
  have hsplit : text = found.before ++ (mark ++ (found.value ++ found.after)) := by
    rw [hfound.split, hpart, List.append_assoc, List.append_assoc]
  refine ⟨mark, hpart, hsplit, hmark, htoken, ?_⟩
  intro other middle' htext hlt hother hnext
  rcases Place.exists_readsToken hnext with ⟨token, last, htoken'⟩
  have hnone := hfound.leftmost other.before other.rest (hsplit.trans htext.symm) hlt
  exact eq_none_iff_not_finds.mp hnone token last
    (finds_idExpression.mpr ⟨middle', hother, htoken'⟩)

/-- Another id at the place of an id is found there, for an earlier mark ends before it, and so it
is in a text that goes on otherwise behind the id. -/
theorem LeftmostId.replace
    (h : LeftmostId before mark token after) {other back : List Char} (hne : other ≠ [])
    (hchars : forall c : Char, c ∈ other -> isIdChar c = true)
    (hends : forall c : Char, back.head? = some c -> isIdChar c = false) :
    LeftmostId before mark other back := by
  have hmark : Place.ReadsIdMark ⟨before, mark⟩ ⟨before ++ mark, []⟩ :=
    Place.ReadsIdMark.of_extend (token ++ after) h.readsMark
  have hreads := hmark.lengthen (other ++ back)
  refine ⟨hreads, ⟨⟨rfl, rfl⟩, hne, hchars, hends⟩, ?_⟩
  intro place middle htext hlt hplace hnext
  have hbefore := hreads.ends_before hplace htext hlt
  have hmiddle : middle.text = (before ++ mark) ++ (other ++ back) := by
    rw [hplace.text_eq, htext, List.append_assoc]
  rcases Place.exists_extend hmiddle (Nat.le_of_lt hbefore) with ⟨short, rfl, hshort⟩
  rcases hplace.shorten with ⟨place, rfl, hearlier⟩
  have hopen : short.rest ≠ [] := by
    intro hnil
    rw [← hshort, Place.text, hnil, List.append_nil] at hbefore
    exact Nat.lt_irrefl _ hbefore
  have hold : (place.extend (token ++ after)).text = before ++ (mark ++ (token ++ after)) := by
    rw [Place.extend_text, ← hearlier.text_eq, hshort, List.append_assoc]
  exact h.leftmost _ _ hold hlt (hearlier.lengthen (token ++ after)) (hnext.of_extend hopen _)

end Pattern

/-!
## Queries with an id
-/

/-- A solid part of a text may be replaced by another behind something that stays. -/
theorem Text.SolidEnds.replace
    {front token back other : List Char} (h : SolidEnds (front ++ (token ++ back)))
    (hfront : front ≠ []) (hne : other ≠ [])
    (hsolid : forall c : Char, c ∈ other -> isBlank c = false) :
    SolidEnds (front ++ (other ++ back)) := by
  constructor
  · intro c hc
    apply h.head c
    rw [List.head?_append_of_ne_nil front hfront] at hc ⊢
    exact hc
  · intro c hc
    cases back with
    | nil =>
        rw [List.append_nil, List.getLast?_append_of_ne_nil front hne] at hc
        exact hsolid c (List.mem_of_getLast? hc)
    | cons d back =>
        apply h.last c
        rw [← List.append_assoc, List.getLast?_append_of_ne_nil _ (List.cons_ne_nil d back)] at hc ⊢
        exact hc

namespace Reading

def withId (reading : Reading) (id : String) : Reading :=
  { reading with criteria := { reading.criteria with id := some id } }

/-- Where the id of a query stands: the search finds its token behind a mark, in the query without
the white space around it. -/
structure IdStands (query front token back : List Char) (found : Pattern.Match (List Char)) :
    Prop where
  searched : Pattern.idExpression.search (strip query) = some found
  value : found.value = token
  query_eq : query = front ++ (token ++ back)
  found_in : exists lead mark trail : List Char,
    found.text = mark ++ token ∧ front = lead ++ (found.before ++ mark) ∧
      back = found.after ++ trail ∧ (forall c : Char, c ∈ lead -> isBlank c = true) ∧
        forall c : Char, c ∈ trail -> isBlank c = true

theorem exists_idStands
    {query : List Char} {found : Pattern.Match (List Char)}
    (h : Pattern.idExpression.search (strip query) = some found) :
    exists front back : List Char, IdStands query front found.value back found := by
  rcases Pattern.exists_leftmostId h with ⟨mark, htext, hsplit, _⟩
  rcases exists_around_strip query with ⟨lead, trail, hquery, hlead, htrail⟩
  refine ⟨lead ++ (found.before ++ mark), found.after ++ trail, h, rfl, ?_, lead, mark, trail,
    htext, rfl, rfl, hlead, htrail⟩
  rw [hsplit] at hquery
  rw [hquery]
  simp only [List.append_assoc]

theorem splitId_of_search
    {query : List Char} {found : Pattern.Match (List Char)}
    (h : Pattern.idExpression.search (strip query) = some found) :
    splitId (strip query) =
      (some (String.ofList found.value), found.before ++ ' ' :: found.after) := by
  have hid : (splitId (strip query)).1 = some (String.ofList found.value) := by
    show (Pattern.idExpression.search (strip query)).map _ = _
    rw [h]
    rfl
  have hrest : (splitId (strip query)).2 = found.before ++ ' ' :: found.after := by
    rw [splitId_snd, withoutId, h]
  rw [← hid, ← hrest]

theorem ofExpressions_of_splitId
    {query query' : List Char} {id : String}
    (h : splitId (strip query') = (some id, (splitId (strip query)).2)) :
    ofExpressions query' = (ofExpressions query).withId id := by
  unfold ofExpressions
  rw [h]
  rfl

theorem IdStands.replace
    {query front token back : List Char} {found : Pattern.Match (List Char)}
    (h : IdStands query front token back found) {other : List Char} (hne : other ≠ [])
    (hchars : forall c : Char, c ∈ other -> Pattern.isIdChar c = true) :
    exists found' : Pattern.Match (List Char),
      IdStands (front ++ (other ++ back)) front other back found' ∧
        found'.before = found.before ∧ found'.after = found.after := by
  rcases h.found_in with ⟨lead, mark, trail, htext, hfront, hback, hlead, htrail⟩
  rcases Pattern.exists_leftmostId h.searched with ⟨mark', htext', hsplit, hleftmost⟩
  have hmark : mark' = mark := by
    rw [htext, ← h.value] at htext'
    exact (List.append_cancel_right htext').symm
  rw [hmark, h.value] at hsplit hleftmost
  have hfrontNe : found.before ++ mark ≠ [] := by
    rcases hleftmost.readsMark.reads with ⟨part, hne, hreads⟩
    rw [show found.before ++ mark = found.before ++ part from hreads.before]
    exact List.append_ne_nil_of_right_ne_nil _ hne
  have hends : SolidEnds (found.before ++ mark ++ (token ++ found.after)) := by
    rw [List.append_assoc, ← hsplit, solidEnds_iff, strip_strip]
  have hstrip : strip (front ++ (other ++ back)) =
      found.before ++ (mark ++ (other ++ found.after)) := by
    have hquery : front ++ (other ++ back) =
        lead ++ (found.before ++ mark ++ (other ++ found.after) ++ trail) := by
      rw [hfront, hback]
      simp only [List.append_assoc]
    have hsolid := hends.replace hfrontNe hne fun c hc =>
      Pattern.not_isBlank_of_isIdChar (hchars c hc)
    rw [hquery, strip_around hlead htrail hsolid, List.append_assoc]
  refine ⟨⟨other, found.before, mark ++ other, found.after⟩, ⟨?_, rfl, rfl, ?_⟩, rfl, rfl⟩
  · rw [hstrip]
    exact (hleftmost.replace hne hchars hleftmost.readsToken.ends).search
  · exact ⟨lead, mark, trail, rfl, hfront, hback, hlead, htrail⟩

/-- The id of a query tells nothing about the rest of it.  Its expression is cut out of the query
exactly, and with any other id in its place the query has that id and otherwise the same reading. -/
theorem ofExpressions_otherId
    {query : List Char} {id : String} (h : (ofExpressions query).criteria.id = some id) :
    exists (front back : List Char) (found : Pattern.Match (List Char)),
      IdStands query front id.toList back found ∧
        (splitId (strip query)).2 = found.before ++ ' ' :: found.after ∧
          forall other : List Char, other ≠ [] ->
            (forall c : Char, c ∈ other -> Pattern.isIdChar c = true) ->
              ofExpressions (front ++ (other ++ back)) =
                (ofExpressions query).withId (String.ofList other) := by
  have hid : (splitId (strip query)).1 = some id := h
  cases hfound : Pattern.idExpression.search (strip query) with
  | none =>
      have hnone : (splitId (strip query)).1 = (none : Option (Pattern.Match (List Char))).map
          fun id => String.ofList id.value := by
        rw [← hfound]
        rfl
      rw [hnone] at hid
      cases hid
  | some found =>
      have hsplit := splitId_of_search hfound
      rw [hsplit] at hid
      rcases exists_idStands hfound with ⟨front, back, hstands⟩
      have htoken : id.toList = found.value := by
        rw [← Option.some.inj hid, String.toList_ofList]
      rw [htoken]
      refine ⟨front, back, found, hstands, by rw [hsplit], ?_⟩
      intro other hne hchars
      rcases hstands.replace hne hchars with ⟨found', hstands', hbefore, hafter⟩
      apply ofExpressions_of_splitId
      rw [splitId_of_search hstands'.searched, hsplit, hstands'.value, hbefore, hafter]

theorem ofExpressions_otherId_lamp :
    (ofExpressions "lamp id:ab-12-34 under 5-7".toList).criteria.id = some "ab-12-34" ∧
      exists (front back : List Char) (found : Pattern.Match (List Char)),
        IdStands "lamp id:ab-12-34 under 5-7".toList front "ab-12-34".toList back found ∧
          (splitId (strip "lamp id:ab-12-34 under 5-7".toList)).2 =
            found.before ++ ' ' :: found.after ∧
            forall other : List Char, other ≠ [] ->
              (forall c : Char, c ∈ other -> Pattern.isIdChar c = true) ->
                ofExpressions (front ++ (other ++ back)) =
                  (ofExpressions "lamp id:ab-12-34 under 5-7".toList).withId
                    (String.ofList other) := by
  have hid : (ofExpressions "lamp id:ab-12-34 under 5-7".toList).criteria.id =
      some "ab-12-34" := by
    decide +kernel
  exact ⟨hid, ofExpressions_otherId hid⟩

end Reading

end CatalogSearch
