import CatalogSearch.Proofs.Query.Phrases
import CatalogSearch.Proofs.Query.PriceForms
import Mathlib.Data.List.Infix

/-!
# The most specific name

The first name of a table that occurs in a query is reported, at its leftmost place.  Names are
words between boundaries, so that a name stands within another one only if its words are some
of the words of the other.  Which names hide others is therefore a matter of the tables: no
brand is part of another, and of the categories only `games`, which comes before `video games`.
-/

namespace CatalogSearch

open Text Pattern

namespace Pattern

/-!
## Letters
-/

def letterOf (c : Char) : Char :=
  if c.toNat = 0x17F then 's'
  else if c.toNat = 0x212A then 'k'
  else if c.toNat = 0x130 ∨ c.toNat = 0x131 then 'i'
  else c.toLower

theorem letterOf_eq
    {letter c : Char} (hletter : letter.isLower = true) (h : sameLetter letter c = true) :
    letterOf c = letter := by
  have hself : letter.isLower = true -> letterOf letter = letter :=
    forall_ascii (toNat_lt_of_isLower hletter) (by decide)
  unfold sameLetter at h
  simp only [Bool.or_eq_true, Bool.and_eq_true, beq_iff_eq] at h
  rcases h with (((heq | hlower) | ⟨hs, hcode⟩) | ⟨hk, hcode⟩) | ⟨hi, hcode⟩
  · rw [heq]
    exact hself hletter
  · by_cases hupper : c.isUpper = true
    · have hc : c.isUpper = true -> letterOf c = c.toLower :=
        forall_ascii (toNat_lt_of_isUpper hupper) (by decide)
      rw [hc hupper, hlower]
    · rw [toLower_of_not_isUpper hupper] at hlower
      rw [hlower]
      exact hself hletter
  · rw [letterOf, if_pos hcode, hs]
  · rw [letterOf, if_neg (by rw [hcode]; decide), if_pos hcode, hk]
  · rw [letterOf, if_neg (by omega), if_neg (by omega), if_pos hcode, hi]

theorem isWordChar_of_sameLetter
    {letter c : Char} (hletter : letter.isLower = true) (h : sameLetter letter c = true) :
    isWordChar c = true := by
  have hascii : forall d : Char, d.toNat < 128 -> d.isUpper = true ∨ d.isLower = true ->
      isWordChar d = true := fun d hd => forall_ascii hd (by decide)
  exact forall_sameLetter isWordChar hascii (by decide +kernel) hletter h

end Pattern

namespace Phrase

/-!
## Spelled words
-/

structure IsLetterWord (word : String) : Prop where
  ne_nil : word.toList ≠ []
  lower : forall letter : Char, letter ∈ word.toList -> letter.isLower = true

def SpellsWord (word : String) (part : List Char) : Prop :=
  List.Forall₂ (fun letter c => sameLetter letter c = true) word.toList part

inductive SpellsRest : List String -> List Char -> Prop where
  | nil : SpellsRest [] []
  | cons {word : String} {rest : List String} {gap part tail : List Char} :
      gap ≠ [] -> (forall c : Char, c ∈ gap -> isBlank c = true) -> SpellsWord word part ->
        SpellsRest rest tail -> SpellsRest (word :: rest) (gap ++ (part ++ tail))

inductive Spells : List String -> List Char -> Prop where
  | intro {word : String} {rest : List String} {part tail : List Char} :
      SpellsWord word part -> SpellsRest rest tail -> Spells (word :: rest) (part ++ tail)

variable {word : String} {list : List String} {part text : List Char}

theorem SpellsWord.wordChars
    (hword : IsLetterWord word) (h : SpellsWord word part) {c : Char} (hc : c ∈ part) :
    isWordChar c = true := by
  rcases PriceForm.exists_letter h hc with ⟨letter, hletter, hsame⟩
  exact isWordChar_of_sameLetter (hword.lower letter hletter) hsame

theorem SpellsWord.isWord (hword : IsLetterWord word) (h : SpellsWord word part) :
    IsWord part := by
  constructor
  · rintro rfl
    exact hword.ne_nil (List.forall₂_nil_right_iff.mp h)
  · exact fun c hc => not_isBlank_of_isWordChar (h.wordChars hword hc)

theorem SpellsWord.unique
    {word' : String} (hword : IsLetterWord word) (hword' : IsLetterWord word')
    (h : SpellsWord word part) (h' : SpellsWord word' part) :
    word' = word := by
  have hletters : forall {letters part : List Char},
      (forall letter : Char, letter ∈ letters -> letter.isLower = true) ->
        List.Forall₂ (fun letter c => sameLetter letter c = true) letters part ->
          letters = part.map letterOf := by
    intro letters part hlower hsame
    induction hsame with
    | nil => rfl
    | cons hfirst _ ih =>
        rw [List.map_cons, letterOf_eq (hlower _ List.mem_cons_self) hfirst,
          ← ih fun letter hmem => hlower letter (List.mem_cons_of_mem _ hmem)]
  apply String.toList_injective
  rw [hletters hword.lower h, hletters hword'.lower h']

theorem SpellsRest.chars
    (hlist : forall word : String, word ∈ list -> IsLetterWord word) (h : SpellsRest list text)
    {c : Char} (hc : c ∈ text) :
    isWordChar c = true ∨ isBlank c = true := by
  induction h with
  | nil => cases hc
  | cons _ hblank hword _ ih =>
      rcases List.forall_mem_cons.mp hlist with ⟨hfirst, hrest⟩
      rcases List.mem_append.mp hc with hgap | hmem
      · exact Or.inr (hblank c hgap)
      · rcases List.mem_append.mp hmem with hpart | htail
        · exact Or.inl (hword.wordChars hfirst hpart)
        · exact ih hrest htail

theorem SpellsRest.words
    (hlist : forall word : String, word ∈ list -> IsLetterWord word) (h : SpellsRest list text) :
    List.Forall₂ SpellsWord list (Text.words text) ∧
      forall front : List Char, IsWord front ->
        Text.words (front ++ text) = front :: Text.words text := by
  induction h with
  | nil =>
      refine ⟨.nil, ?_⟩
      intro front hfront
      rw [List.append_nil, words_word hfront]
      rfl
  | @cons word rest gap part tail hne hblank hword _ ih =>
      rcases List.forall_mem_cons.mp hlist with ⟨hfirst, hrest⟩
      rcases ih hrest with ⟨htail, hjoined⟩
      have hwords : forall run : List Char, (forall c : Char, c ∈ run -> isBlank c = true) ->
          Text.words (run ++ (part ++ tail)) = part :: Text.words tail := by
        intro run hrun
        rw [words_blanks_append hrun, hjoined part (hword.isWord hfirst)]
      rw [hwords gap hblank]
      refine ⟨.cons hword htail, ?_⟩
      intro front hfront
      cases gap with
      | nil => exact absurd rfl hne
      | cons blank gap =>
          rcases List.forall_mem_cons.mp hblank with ⟨hc, hgap⟩
          rw [List.cons_append, words_word_blank _ hfront hc, hwords gap hgap]

theorem Spells.words
    (hlist : forall word : String, word ∈ list -> IsLetterWord word) (h : Spells list text) :
    List.Forall₂ SpellsWord list (Text.words text) := by
  cases h with
  | intro hword hrest =>
      rcases List.forall_mem_cons.mp hlist with ⟨hfirst, hlist⟩
      rcases hrest.words hlist with ⟨htail, hjoined⟩
      rw [hjoined _ (hword.isWord hfirst)]
      exact .cons hword htail

theorem Spells.chars
    (hlist : forall word : String, word ∈ list -> IsLetterWord word) (h : Spells list text)
    {c : Char} (hc : c ∈ text) :
    isWordChar c = true ∨ isBlank c = true := by
  cases h with
  | intro hword hrest =>
      rcases List.forall_mem_cons.mp hlist with ⟨hfirst, hlist⟩
      rcases List.mem_append.mp hc with hpart | htail
      · exact Or.inl (hword.wordChars hfirst hpart)
      · exact hrest.chars hlist htail

theorem SpellsWord.ends (hword : IsLetterWord word) (h : SpellsWord word part) :
    part.head?.any isWordChar = true ∧ part.getLast?.any isWordChar = true := by
  have hne := (h.isWord hword).ne_nil
  rw [List.head?_eq_some_head hne, List.getLast?_eq_some_getLast hne]
  exact ⟨h.wordChars hword (List.head_mem hne), h.wordChars hword (List.getLast_mem hne)⟩

theorem SpellsRest.last
    (hlist : forall word : String, word ∈ list -> IsLetterWord word) (h : SpellsRest list text)
    {front : List Char} (hfront : front.getLast?.any isWordChar = true) :
    (front ++ text).getLast?.any isWordChar = true := by
  induction h generalizing front with
  | nil =>
      rw [List.append_nil]
      exact hfront
  | @cons _ _ gap part tail _ _ hword _ ih =>
      rcases List.forall_mem_cons.mp hlist with ⟨hfirst, hrest⟩
      have hlast := ih hrest (hword.ends hfirst).2
      rw [← List.append_assoc, List.getLast?_append]
      cases hc : (part ++ tail).getLast? with
      | none =>
          rw [hc] at hlast
          cases hlast
      | some c =>
          rw [hc] at hlast
          exact hlast

theorem Spells.ends
    (hlist : forall word : String, word ∈ list -> IsLetterWord word) (h : Spells list text) :
    text.head?.any isWordChar = true ∧ text.getLast?.any isWordChar = true := by
  cases h with
  | intro hword hrest =>
      rcases List.forall_mem_cons.mp hlist with ⟨hfirst, hlist⟩
      rcases hword.ends hfirst with ⟨hhead, hlast⟩
      refine ⟨?_, hrest.last hlist hlast⟩
      rw [List.head?_append_of_ne_nil _ (hword.isWord hfirst).ne_nil]
      exact hhead

end Phrase

/-!
## Findings of names
-/

namespace Place

structure ReadsName (first : Place) (list : List String) (last : Place) : Prop where
  spelled : exists part : List Char, first.Reads part last ∧ Phrase.Spells list part
  fresh : first.before.getLast?.any isWordChar = false
  ends : last.rest.head?.any isWordChar = false

end Place

namespace Pattern

open Phrase

variable {first last : Place} {value : Unit}

theorem finds_boundary :
    Finds boundary first value last <->
      last = first ∧ first.before.getLast?.any isWordChar ≠ first.rest.head?.any isWordChar := by
  have hcheck : Finds boundary first value last <-> last = first ∧
      (first.before.getLast?.any isWordChar == first.rest.head?.any isWordChar) = false := by
    refine finds_check (fun prev text =>
      prev.any isWordChar == text.head?.any isWordChar) ?_
    intro prev text
    unfold boundary
    cases prev.any isWordChar <;> cases text.head?.any isWordChar <;> rfl
  rw [hcheck, beq_eq_false_iff_ne]

theorem finds_someBlanks :
    Finds someBlanks first value last <->
      (exists gap : List Char, first.Reads gap last ∧ gap ≠ [] ∧
        forall c : Char, c ∈ gap -> isBlank c = true) ∧
        forall c : Char, last.rest.head? = some c -> isBlank c = false := by
  have hbind : Finds someBlanks first value last <->
      Finds (someWhere isBlank >>= fun _ => pure ()) first value last := Iff.rfl
  rw [hbind]
  simp only [finds_bind, finds_pure, finds_someWhere]
  constructor
  · rintro ⟨gap, _, ⟨hreads, hne, hblank, hends⟩, _, rfl⟩
    exact ⟨⟨gap, hreads, hne, hblank⟩, hends⟩
  · rintro ⟨⟨gap, hreads, hne, hblank⟩, hends⟩
    exact ⟨gap, last, ⟨hreads, hne, hblank, hends⟩, trivial, rfl⟩

theorem finds_more
    {list : List String} (hlist : forall word : String, word ∈ list -> IsLetterWord word) :
    Finds (boundedWords.more list) first value last <->
      (exists tail : List Char, first.Reads tail last ∧ SpellsRest list tail) ∧
        last.before.getLast?.any isWordChar ≠ last.rest.head?.any isWordChar := by
  induction list generalizing first with
  | nil =>
      have hmore : Finds (boundedWords.more []) first value last <->
          Finds boundary first value last := Iff.rfl
      rw [hmore, finds_boundary]
      constructor
      · rintro ⟨rfl, hends⟩
        exact ⟨⟨[], Place.Reads.nil_iff.mpr rfl, .nil⟩, hends⟩
      · rintro ⟨⟨tail, hreads, hspells⟩, hends⟩
        cases hspells
        rw [Place.Reads.nil_iff.mp hreads] at hends ⊢
        exact ⟨rfl, hends⟩
  | cons next rest ih =>
      rcases List.forall_mem_cons.mp hlist with ⟨hnext, hrest⟩
      have hmore : Finds (boundedWords.more (next :: rest)) first value last <->
          Finds (someBlanks >>= fun _ => letters next.toList >>= fun _ => boundedWords.more rest)
            first value last := Iff.rfl
      rw [hmore]
      simp only [finds_bind, finds_someBlanks, finds_letters, ih hrest]
      constructor
      · rintro ⟨_, a, ⟨⟨gap, hgap, hne, hblank⟩, _⟩, _, b, ⟨part, hpart, hword⟩,
          ⟨tail, htail, hspells⟩, hends⟩
        exact ⟨⟨_, hgap.trans (hpart.trans htail), .cons hne hblank hword hspells⟩, hends⟩
      · rintro ⟨⟨text, hreads, hspells⟩, hends⟩
        cases hspells with
        | @cons _ _ gap part tail hne hblank hword hspells =>
            rcases hreads.split with ⟨a, hgap, hreads⟩
            rcases hreads.split with ⟨b, hpart, htail⟩
            refine ⟨(), a, ⟨⟨gap, hgap, hne, hblank⟩, ?_⟩, (), b, ⟨part, hpart, hword⟩,
              ⟨tail, htail, hspells⟩, hends⟩
            intro c hc
            rcases List.exists_cons_of_ne_nil (SpellsWord.isWord hnext hword).ne_nil with
              ⟨d, part', rfl⟩
            rw [hpart.rest, List.cons_append, List.head?_cons] at hc
            rw [← Option.some.inj hc]
            exact (SpellsWord.isWord hnext hword).solid d List.mem_cons_self

theorem ends_of_reads
    {list : List String} {text : List Char}
    (hlist : forall word : String, word ∈ list -> IsLetterWord word)
    (hreads : first.Reads text last) (h : Spells list text) :
    first.rest.head?.any isWordChar = true ∧ last.before.getLast?.any isWordChar = true := by
  rcases h.ends hlist with ⟨hhead, hlast⟩
  have hne : text ≠ [] := by
    rintro rfl
    cases hhead
  rw [hreads.rest, hreads.before, List.head?_append_of_ne_nil _ hne,
    List.getLast?_append_of_ne_nil _ hne]
  exact ⟨hhead, hlast⟩

/-- Bounded words are found exactly where they are read between places where no word goes on. -/
theorem finds_boundedWords
    {word : String} {rest : List String}
    (hlist : forall other : String, other ∈ word :: rest -> IsLetterWord other) :
    Finds (boundedWords (word :: rest)) first value last <->
      first.ReadsName (word :: rest) last := by
  rcases List.forall_mem_cons.mp hlist with ⟨hword, hrest⟩
  have hbounded : Finds (boundedWords (word :: rest)) first value last <->
      Finds (boundary >>= fun _ => letters word.toList >>= fun _ => boundedWords.more rest)
        first value last := Iff.rfl
  rw [hbounded]
  simp only [finds_bind, finds_boundary, finds_letters, finds_more hrest]
  constructor
  · rintro ⟨_, _, ⟨rfl, hstart⟩, _, b, ⟨part, hpart, hsame⟩, ⟨tail, htail, hspells⟩, hends⟩
    have hreads := hpart.trans htail
    have hwhole : Spells (word :: rest) (part ++ tail) := .intro hsame hspells
    rcases ends_of_reads hlist hreads hwhole with ⟨hfirst, hlast⟩
    rw [hfirst] at hstart
    rw [hlast] at hends
    exact ⟨⟨_, hreads, hwhole⟩, Bool.eq_false_iff.mpr hstart, Bool.eq_false_iff.mpr hends.symm⟩
  · rintro ⟨⟨text, hreads, hwhole⟩, hfresh, hends⟩
    rcases ends_of_reads hlist hreads hwhole with ⟨hfirst, hlast⟩
    cases hwhole with
    | @intro _ _ part tail hsame hspells =>
        rcases hreads.split with ⟨b, hpart, htail⟩
        refine ⟨(), first, ⟨rfl, ?_⟩, (), b, ⟨part, hpart, hsame⟩, ⟨tail, htail, hspells⟩, ?_⟩
        · rw [hfirst, hfresh]
          exact Bool.false_ne_true
        · rw [hlast, hends]
          exact Bool.false_ne_true.symm

end Pattern

/-!
## Names within names
-/

namespace Phrase

theorem exists_forall₂_append
    {α β : Type} {related : α -> β -> Prop} {list : List α} {front back : List β}
    (h : List.Forall₂ related list (front ++ back)) :
    exists front' back' : List α, list = front' ++ back' ∧
      List.Forall₂ related front' front ∧ List.Forall₂ related back' back :=
  ⟨list.take front.length, list.drop front.length, (List.take_append_drop _ _).symm,
    List.forall₂_take_append _ _ _ h, List.forall₂_drop_append _ _ _ h⟩

theorem spells_unique
    {list list' : List String} {parts : List (List Char)}
    (hlist : forall word : String, word ∈ list -> IsLetterWord word)
    (hlist' : forall word : String, word ∈ list' -> IsLetterWord word)
    (h : List.Forall₂ SpellsWord list parts) (h' : List.Forall₂ SpellsWord list' parts) :
    list' = list := by
  induction h generalizing list' with
  | nil => exact List.forall₂_nil_right_iff.mp h'
  | cons hword _ ih =>
      cases h' with
      | cons hword' hrest =>
          rcases List.forall_mem_cons.mp hlist with ⟨hfirst, hlist⟩
          rcases List.forall_mem_cons.mp hlist' with ⟨hfirst', hlist'⟩
          rw [hword.unique hfirst hfirst' hword', ih hlist hlist' hrest]

/-- What a text spells within spelled words are some of the words, and not all of them if there is
more. -/
theorem words_within
    {list other : List String} {left part right : List Char}
    (hlist : forall word : String, word ∈ list -> IsLetterWord word)
    (hother : forall word : String, word ∈ other -> IsLetterWord word)
    (h : Spells list part) (h' : Spells other (left ++ (part ++ right)))
    (hleft : forall c : Char, left.getLast? = some c -> isBlank c = true)
    (hright : forall c : Char, right.head? = some c -> isBlank c = true) :
    exists front back : List String, other = front ++ (list ++ back) ∧
      (left ≠ [] -> front ≠ []) ∧ (right ≠ [] -> back ≠ []) := by
  have hwords := h'.words hother
  rw [words_append_of_blank_last hleft, words_append_of_blank_head hright] at hwords
  rcases exists_forall₂_append hwords with ⟨front, rest, rfl, hfront, hrest⟩
  rcases exists_forall₂_append hrest with ⟨inner, back, rfl, hinner, hback⟩
  have hlist' : inner = list := by
    refine spells_unique hlist (fun word hmem => hother word ?_) (h.words hlist) hinner
    exact List.mem_append_right front (List.mem_append_left back hmem)
  rcases h'.ends hother with ⟨hhead, hlast⟩
  refine ⟨front, back, by rw [hlist'], ?_, ?_⟩
  · intro hne hnil
    rw [hnil, List.forall₂_nil_left_iff] at hfront
    rcases List.exists_cons_of_ne_nil hne with ⟨c, left, rfl⟩
    exact words_ne_nil List.mem_cons_self (not_isBlank_of_isWordChar hhead) hfront
  · intro hne hnil
    rw [hnil, List.forall₂_nil_left_iff] at hback
    rw [← List.append_assoc, List.getLast?_append_of_ne_nil _ hne,
      List.getLast?_eq_some_getLast hne] at hlast
    exact words_ne_nil (List.getLast_mem hne) (not_isBlank_of_isWordChar hlast) hback

/-!
## The tables of names
-/

def spellingsOf (names : List Name) : List (List String) :=
  names.flatMap Name.spellings

def wellSpelled (names : List Name) : Bool :=
  (spellingsOf names).all fun list => !list.isEmpty && list.all fun word =>
    !word.toList.isEmpty && word.toList.all Char.isLower

def nested (names : List Name) : List (List String × List String) :=
  (spellingsOf names).flatMap fun inner =>
    ((spellingsOf names).filter fun outer =>
      inner != outer && outer.tails.any inner.isPrefixOf).map fun outer => (inner, outer)

theorem wellSpelled_tables : wellSpelled brands = true ∧ wellSpelled categories = true := by
  decide

theorem nested_brands : nested brands = [] := by
  decide

theorem nested_categories : nested categories = [(["games"], ["video", "games"])] := by
  decide

variable {names : List Name} {name other : Name}

theorem mem_nested
    {inner outer front back : List String} (hname : name ∈ names) (hother : other ∈ names)
    (hinner : inner ∈ name.spellings) (houter : outer ∈ other.spellings)
    (hsplit : outer = front ++ (inner ++ back)) (hproper : front ≠ [] ∨ back ≠ []) :
    (inner, outer) ∈ nested names := by
  refine List.mem_flatMap.mpr ⟨inner, List.mem_flatMap.mpr ⟨name, hname, hinner⟩, ?_⟩
  refine List.mem_map.mpr ⟨outer, List.mem_filter.mpr ⟨?_, ?_⟩, rfl⟩
  · exact List.mem_flatMap.mpr ⟨other, hother, houter⟩
  · rw [Bool.and_eq_true, bne_iff_ne, List.any_eq_true]
    constructor
    · intro heq
      rw [← heq] at hsplit
      have hlength := congrArg List.length hsplit
      simp only [List.length_append] at hlength
      have hfront : front = [] := List.length_eq_zero_iff.mp (by omega)
      have hback : back = [] := List.length_eq_zero_iff.mp (by omega)
      exact hproper.elim (fun hne => hne hfront) fun hne => hne hback
    · refine ⟨inner ++ back, ?_, List.isPrefixOf_iff_prefix.mpr (List.prefix_append _ _)⟩
      rw [List.mem_tails, hsplit]
      exact List.suffix_append _ _

theorem letterWords_of_wellSpelled
    (hnames : wellSpelled names = true) (hname : name ∈ names) {list : List String}
    (hlist : list ∈ name.spellings) :
    list ≠ [] ∧ forall word : String, word ∈ list -> IsLetterWord word := by
  have hcheck := List.all_eq_true.mp hnames list (List.mem_flatMap.mpr ⟨name, hname, hlist⟩)
  rw [Bool.and_eq_true, List.all_eq_true] at hcheck
  refine ⟨by simpa using hcheck.1, ?_⟩
  intro word hword
  have hletters := hcheck.2 word hword
  rw [Bool.and_eq_true, List.all_eq_true] at hletters
  exact ⟨by simpa using hletters.1, hletters.2⟩

theorem readsName_of_finds
    (hnames : wellSpelled names = true) (hname : name ∈ names) {first last : Place} {value : Unit}
    (h : Finds name.pattern first value last) :
    exists list : List String, list ∈ name.spellings ∧ first.ReadsName list last := by
  rcases exists_finds_of_anyOf h with ⟨pattern, hpattern, hfinds⟩
  rcases List.mem_map.mp hpattern with ⟨list, hlist, rfl⟩
  rcases letterWords_of_wellSpelled hnames hname hlist with ⟨hne, hwords⟩
  rcases List.exists_cons_of_ne_nil hne with ⟨word, rest, rfl⟩
  exact ⟨_, hlist, (finds_boundedWords hwords).mp hfinds⟩

/-!
## What a name hides
-/

def IsProperPart (found : Match Unit) (first last : Place) : Prop :=
  exists left right : List Char,
    found.before = first.before ++ left ∧ found.after = right ++ last.rest ∧
      (left ≠ [] ∨ right ≠ [])

/-- No name of a table covers what was found and more. -/
def MostSpecific (names : List Name) (text : List Char) (found : Match Unit) : Prop :=
  forall (other : Name) (first last : Place), other ∈ names -> first.text = text ->
    Finds other.pattern first () last -> ¬ IsProperPart found first last

def FollowsVideo (before : List Char) : Prop :=
  exists front part gap : List Char, before = front ++ (part ++ gap) ∧
    front.getLast?.any isWordChar = false ∧ SpellsWord "video" part ∧ gap ≠ [] ∧
      forall c : Char, c ∈ gap -> isBlank c = true

theorem covers_name (name : Name) : Covers (fun _ => True) name.pattern := by
  apply covers_anyOf
  intro pattern hpattern
  rcases List.mem_map.mp hpattern with ⟨list, _, rfl⟩
  exact covers_boundedWords (fun _ _ => trivial) fun _ _ _ _ _ _ => trivial

theorem place_of_search
    {text : List Char} {found : Match Unit} (h : name.pattern.search text = some found) :
    text = found.before ++ (found.text ++ found.after) ∧
      Finds name.pattern ⟨found.before, found.text ++ found.after⟩ ()
        ⟨found.before ++ found.text, found.after⟩ := by
  have hfound := foundAt_of_search (covers_name name) h
  refine ⟨?_, found.text, rfl, hfound.fits⟩
  rw [hfound.split, List.append_assoc]

theorem reads_around
    {first last : Place} {whole before left part right after : List Char}
    (hreads : first.Reads whole last) (htext : first.text = before ++ (part ++ after))
    (hleft : before = first.before ++ left) (hright : after = right ++ last.rest) :
    whole = left ++ (part ++ right) := by
  have hwhole : (first.before ++ whole) ++ last.rest =
      (first.before ++ (left ++ (part ++ right))) ++ last.rest := by
    rw [Place.text, hreads.rest, hleft, hright] at htext
    rw [List.append_assoc, htext]
    simp only [List.append_assoc]
  exact List.append_cancel_left (List.append_cancel_right hwhole)

/-- Beside a part of a spelled text where no word goes on there is white space. -/
theorem Spells.blank_sides
    {list : List String} {before left part right after : List Char}
    (h : Spells list (left ++ (part ++ right)))
    (hwords : forall word : String, word ∈ list -> IsLetterWord word)
    (hfresh : (before ++ left).getLast?.any isWordChar = false)
    (hends : (right ++ after).head?.any isWordChar = false) :
    (forall c : Char, left.getLast? = some c -> isBlank c = true) ∧
      forall c : Char, right.head? = some c -> isBlank c = true := by
  have hblank : forall c : Char, c ∈ left ++ (part ++ right) -> isWordChar c = false ->
      isBlank c = true := by
    intro c hc hword
    rcases h.chars hwords hc with hchar | hblank
    · rw [hword] at hchar
      cases hchar
    · exact hblank
  constructor
  · intro c hc
    apply hblank c (List.mem_append_left _ (List.mem_of_getLast? hc))
    rw [List.getLast?_append, hc] at hfresh
    exact hfresh
  · intro c hc
    apply hblank c
    · exact List.mem_append_right _ (List.mem_append_right _ (List.mem_of_head? hc))
    · rw [List.head?_append, hc] at hends
      exact hends

theorem nested_of_isProperPart
    (hnames : wellSpelled names = true) (hname : name ∈ names) (hother : other ∈ names)
    {text : List Char} {found : Match Unit} (hfound : name.pattern.search text = some found)
    {first last : Place} (htext : first.text = text) (hfinds : Finds other.pattern first () last)
    (hpart : IsProperPart found first last) :
    exists (inner outer front back : List String) (left right : List Char),
      (inner, outer) ∈ nested names ∧ inner ∈ name.spellings ∧
        outer = front ++ (inner ++ back) ∧ (right ≠ [] -> back ≠ []) ∧
          found.before = first.before ++ left ∧ first.before.getLast?.any isWordChar = false ∧
            Spells inner found.text ∧ Spells outer (left ++ (found.text ++ right)) := by
  rcases place_of_search hfound with ⟨hsplit, hfits⟩
  rcases readsName_of_finds hnames hname hfits with ⟨inner, hinner, ⟨text', hreads, hspells⟩,
    hfresh, hends⟩
  rcases readsName_of_finds hnames hother hfinds with ⟨outer, houter, ⟨whole, hwhole, hspells'⟩,
    hfresh', _⟩
  rcases hpart with ⟨left, right, hleft, hright, hmore⟩
  rcases letterWords_of_wellSpelled hnames hname hinner with ⟨_, hinnerWords⟩
  rcases letterWords_of_wellSpelled hnames hother houter with ⟨_, houterWords⟩
  rw [PriceForm.reads_unique ⟨rfl, rfl⟩ hreads] at hspells
  rw [reads_around hwhole (htext.trans hsplit) hleft hright] at hspells'
  rw [hleft] at hfresh
  rw [hright] at hends
  have hsides := hspells'.blank_sides houterWords hfresh hends
  rcases words_within hinnerWords houterWords hspells hspells' hsides.1 hsides.2 with
    ⟨front, back, houterEq, hfront, hback⟩
  have hproper : front ≠ [] ∨ back ≠ [] := hmore.imp hfront hback
  exact ⟨inner, outer, front, back, left, right,
    mem_nested hname hother hinner houter houterEq hproper, hinner, houterEq, hback, hleft, hfresh',
    hspells, hspells'⟩

theorem mostSpecific_brands
    {text : List Char} {found : Match Unit} (hname : name ∈ brands)
    (hfound : name.pattern.search text = some found) :
    MostSpecific brands text found := by
  intro other first last hother htext hfinds hpart
  rcases nested_of_isProperPart wellSpelled_tables.1 hname hother hfound htext hfinds hpart with
    ⟨inner, outer, _, _, _, _, hnested, _⟩
  rw [nested_brands] at hnested
  cases hnested

theorem mem_videoGames : (⟨[["video", "games"]]⟩ : Name) ∈ categories := by
  decide

theorem only_games
    (hname : name ∈ categories) (hgames : ["games"] ∈ name.spellings) :
    name = .single "games" := by
  have honly : (categories.all fun name =>
      !name.spellings.contains ["games"] || name == .single "games") = true := by
    decide
  have hcheck := List.all_eq_true.mp honly name hname
  rw [List.contains_iff_mem.mpr hgames, Bool.not_true, Bool.false_or, beq_iff_eq] at hcheck
  exact hcheck

theorem spells_games {text : List Char} :
    Spells ["games"] text <-> SpellsWord "games" text := by
  constructor
  · intro h
    cases h with
    | intro hword hrest =>
        cases hrest
        rw [List.append_nil]
        exact hword
  · intro h
    rw [← List.append_nil text]
    exact .intro h .nil

theorem exists_videoGames
    {text : List Char} {found : Match Unit}
    (hfound : (Name.single "games").pattern.search text = some found)
    (h : FollowsVideo found.before) :
    exists first last : Place, first.text = text ∧
      Finds (Name.pattern ⟨[["video", "games"]]⟩) first () last ∧
        IsProperPart found first last := by
  rcases h with ⟨front, part, gap, hbefore, hfresh, hvideo, hne, hblank⟩
  rcases place_of_search hfound with ⟨hsplit, hfits⟩
  have hgames : Name.single "games" ∈ categories := by decide
  rcases readsName_of_finds wellSpelled_tables.2 hgames hfits with
    ⟨list, hlist, ⟨games, hreads, hspells⟩, _, hends⟩
  rw [List.mem_singleton.mp hlist, PriceForm.reads_unique ⟨rfl, rfl⟩ hreads, spells_games]
    at hspells
  refine ⟨⟨front, part ++ gap ++ (found.text ++ found.after)⟩,
    ⟨found.before ++ found.text, found.after⟩, ?_, ?_, part ++ gap, [], hbefore, rfl, ?_⟩
  · rw [hsplit, hbefore]
    exact (List.append_assoc _ _ _).symm
  · have hwords := letterWords_of_wellSpelled wellSpelled_tables.2 mem_videoGames
      (List.mem_singleton.mpr rfl)
    refine finds_orElse.mpr (Or.inl ((finds_boundedWords hwords.2).mpr ⟨?_, hfresh, hends⟩))
    refine ⟨part ++ (gap ++ (found.text ++ [])), ⟨?_, ?_⟩,
      .intro hvideo (.cons hne hblank hspells .nil)⟩
    · rw [hbefore]
      simp only [List.append_assoc, List.append_nil]
    · simp only [List.append_assoc, List.append_nil]
  · exact Or.inl (List.append_ne_nil_of_right_ne_nil _ hne)

/-- A category is most specific unless it is `games` and the word `video` stands before it. -/
theorem mostSpecific_categories_iff
    {text : List Char} {found : Match Unit} (hname : name ∈ categories)
    (hfound : name.pattern.search text = some found) :
    MostSpecific categories text found <->
      ¬ (name = .single "games" ∧ FollowsVideo found.before) := by
  constructor
  · rintro hspecific ⟨rfl, hvideo⟩
    rcases exists_videoGames hfound hvideo with ⟨first, last, htext, hfinds, hpart⟩
    exact hspecific _ first last mem_videoGames htext hfinds hpart
  · intro hnot other first last hother htext hfinds hpart
    rcases nested_of_isProperPart wellSpelled_tables.2 hname hother hfound htext hfinds hpart with
      ⟨inner, outer, front, back, left, right, hnested, hinner, houter, hback, hleft, hfresh,
        hspells, hspells'⟩
    rw [nested_categories, List.mem_singleton, Prod.mk.injEq] at hnested
    rcases hnested with ⟨rfl, rfl⟩
    have hright : right = [] := by
      by_contra hne
      rcases List.exists_cons_of_ne_nil (hback hne) with ⟨word, back, rfl⟩
      cases front with
      | nil => exact absurd (List.cons.inj houter).1 (by decide)
      | cons first front =>
          have hlength := congrArg List.length houter
          simp only [List.length_cons, List.length_append, List.length_nil] at hlength
          omega
    rw [hright, List.append_nil] at hspells'
    generalize hwhole : left ++ found.text = whole at hspells'
    cases hspells' with
    | intro hvideo hrest =>
        cases hrest with
        | @cons _ _ gap part _ hne hblank hgames hnil =>
            cases hnil
            have hsame : part.length = found.text.length := by
              rw [← hgames.length_eq, ← (spells_games.mp hspells).length_eq]
            rw [List.append_nil, ← List.append_assoc] at hwhole
            have hleftEq := (List.append_inj' hwhole hsame.symm).1
            refine hnot ⟨only_games hname hinner, first.before, _, gap, ?_, hfresh, hvideo, hne,
              hblank⟩
            rw [hleft, hleftEq]

/-!
## Reported names
-/

/-- What is reported of a table is the text of its first name that occurs, and no name of the table
covers that text and more. -/
def ReportsMostSpecific (names : List Name) (text : List Char) (reported : Option String) : Prop :=
  forall shown : String, reported = some shown ->
    exists (name : Name) (found : Match Unit),
      firstFound Name.pattern text names = some (name, found) ∧
        shown = String.ofList (collapse found.text) ∧ MostSpecific names text found

def FindsGamesBehindVideo (text : List Char) : Prop :=
  exists found : Match Unit,
    firstFound Name.pattern text categories = some (.single "games", found) ∧
      FollowsVideo found.before

def IsReported (names : List Name) (name : Name) : Prop :=
  exists (query : List Char) (found : Match Unit),
    firstFound Name.pattern (collapse (lower query)) names = some (name, found)

theorem reportsMostSpecific_iff
    {names : List Name} {text : List Char} {name : Name} {found : Match Unit}
    (hfirst : firstFound Name.pattern text names = some (name, found)) :
    ReportsMostSpecific names text (some (String.ofList (collapse found.text))) <->
      MostSpecific names text found := by
  constructor
  · intro h
    rcases h _ rfl with ⟨name', found', hfirst', _, hspecific⟩
    rw [hfirst, Option.some.injEq, Prod.mk.injEq] at hfirst'
    rw [hfirst'.2]
    exact hspecific
  · intro h shown hshown
    exact ⟨name, found, hfirst, (Option.some.inj hshown).symm, h⟩

end Phrase

namespace Reading

open Phrase

theorem ofPhrases_names (query : List Char) :
    (ofPhrases query).criteria.brand =
        (firstFound Name.pattern (collapse (lower query)) brands).map
          (fun entry => String.ofList (collapse entry.2.text)) ∧
      (ofPhrases query).criteria.category =
        (firstFound Name.pattern (collapse (lower query)) categories).map
          fun entry => String.ofList (collapse entry.2.text) := by
  have hshown : forall (names : List Name) (text : List Char),
      (name? names text).map (fun entry => String.ofList entry.2) =
        (firstFound Name.pattern text names).map
          fun entry => String.ofList (collapse entry.2.text) := by
    intro names text
    rw [name?, Option.map_map]
    rfl
  rw [← hshown, ← hshown]
  unfold ofPhrases
  cases collapse (lower query) with
  | nil =>
      have hbrands : name? brands [] = none := by decide
      have hcategories : name? categories [] = none := by decide
      rw [hbrands, hcategories]
      exact ⟨rfl, rfl⟩
  | cons c text => exact ⟨rfl, rfl⟩

end Reading

namespace Phrase

def Name.query (name : Name) : List Char :=
  joinWords ((name.spellings.headD []).map String.toList)

def reportedInOwnWords (names : List Name) (name : Name) : Bool :=
  (firstFound Name.pattern (collapse (lower name.query)) names).any fun entry => entry.1 == name

theorem IsReported.of_own_words
    {names : List Name} {name : Name} (h : reportedInOwnWords names name = true) :
    IsReported names name := by
  rcases (Option.any_eq_true _ _).mp h with ⟨⟨name', found⟩, hfirst, heq⟩
  have hname : name' = name := beq_iff_eq.mp heq
  rw [hname] at hfirst
  exact ⟨name.query, found, hfirst⟩

theorem firstFound_skips
    {α β : Type} {pattern : α -> Pattern β} {text : List Char} {front back : List α} {entry : α}
    {found : Match β} (h : firstFound pattern text (front ++ back) = some (entry, found))
    (hentry : entry ∉ front) {other : α} (hother : other ∈ front) :
    (pattern other).search text = none := by
  induction front with
  | nil => cases hother
  | cons first front ih =>
      rw [List.cons_append, firstFound] at h
      cases hfirst : (pattern first).search text with
      | some found' =>
          rw [hfirst] at h
          injection h with hpair
          injection hpair with heq _
          exact absurd (heq ▸ List.mem_cons_self) hentry
      | none =>
          rw [hfirst] at h
          rcases List.mem_cons.mp hother with rfl | hmem
          · exact hfirst
          · exact ih h (fun hmem => hentry (List.mem_cons_of_mem first hmem)) hmem

/-- Where `video games` stands, `games` is found before it is looked for. -/
theorem not_isReported_videoGames : ¬ IsReported categories ⟨[["video", "games"]]⟩ := by
  rintro ⟨query, found, hfirst⟩
  rcases place_of_search (firstFound_eq_some hfirst).2 with ⟨hsplit, hfits⟩
  rcases readsName_of_finds wellSpelled_tables.2 mem_videoGames hfits with
    ⟨list, hlist, ⟨whole, hreads, hspells⟩, _, hends⟩
  rw [List.mem_singleton.mp hlist] at hspells
  have htables : categories = categories.take 14 ++ categories.drop 14 := by
    rw [List.take_append_drop]
  rw [htables] at hfirst
  have hnone : (Name.single "games").pattern.search (collapse (lower query)) = none :=
    firstFound_skips hfirst (by decide) (by decide)
  cases hspells with
  | intro hvideo hrest =>
      cases hrest with
      | @cons _ _ gap part _ hne hblank hgames hnil =>
          cases hnil
          rw [List.append_nil] at hreads
          rcases hreads.split with ⟨a, hvideoReads, hreads⟩
          rcases hreads.split with ⟨b, hgap, hpart⟩
          have hfresh : b.before.getLast?.any isWordChar = false := by
            rw [hgap.before, List.getLast?_append_of_ne_nil _ hne,
              List.getLast?_eq_some_getLast hne]
            exact not_isWordChar_of_isBlank (hblank _ (List.getLast_mem hne))
          have hwords := letterWords_of_wellSpelled wellSpelled_tables.2
            (show Name.single "games" ∈ categories by decide) (List.mem_singleton.mpr rfl)
          have hfinds : Finds (Name.single "games").pattern b ()
              ⟨found.before ++ found.text, found.after⟩ :=
            finds_orElse.mpr (Or.inl ((finds_boundedWords hwords.2).mpr
              ⟨⟨part, hpart, spells_games.mpr hgames⟩, hfresh, hends⟩))
          have htext : b.text = collapse (lower query) := by
            rw [hgap.text_eq, hvideoReads.text_eq, hsplit]
            rfl
          exact not_finds_of_search hnone htext _ _ hfinds

end Phrase

namespace Reading

open Phrase

theorem reportsMostSpecific_brands (query : List Char) :
    ReportsMostSpecific brands (collapse (lower query)) (ofPhrases query).criteria.brand := by
  rw [(ofPhrases_names query).1]
  cases hfirst : firstFound Name.pattern (collapse (lower query)) brands with
  | none => exact nofun
  | some entry =>
      rcases firstFound_eq_some hfirst with ⟨hname, hfound⟩
      exact (reportsMostSpecific_iff hfirst).mpr (mostSpecific_brands hname hfound)

theorem reportsMostSpecific_categories_iff (query : List Char) :
    ReportsMostSpecific categories (collapse (lower query)) (ofPhrases query).criteria.category <->
      ¬ FindsGamesBehindVideo (collapse (lower query)) := by
  rw [(ofPhrases_names query).2, FindsGamesBehindVideo]
  cases hfirst : firstFound Name.pattern (collapse (lower query)) categories with
  | none =>
      refine iff_of_true nofun ?_
      rintro ⟨found, hgames, _⟩
      cases hgames
  | some entry =>
      rcases entry with ⟨name, found⟩
      rcases firstFound_eq_some hfirst with ⟨hname, hfound⟩
      rw [Option.map_some, reportsMostSpecific_iff hfirst,
        mostSpecific_categories_iff hname hfound, not_iff_not]
      constructor
      · rintro ⟨rfl, hvideo⟩
        exact ⟨found, rfl, hvideo⟩
      · rintro ⟨found', hgames, hvideo⟩
        rcases Prod.mk.inj (Option.some.inj hgames) with ⟨hgames, hsame⟩
        exact ⟨hgames, hsame ▸ hvideo⟩

/-- Every brand that is reported is the most specific one, and every category unless it is `games`
and the word `video` stands before it.  So every brand can be reported, and every category except
`video games`. -/
theorem reportsMostSpecific (query : List Char) :
    ReportsMostSpecific brands (collapse (lower query)) (ofPhrases query).criteria.brand ∧
      (ReportsMostSpecific categories (collapse (lower query))
          (ofPhrases query).criteria.category <->
        ¬ FindsGamesBehindVideo (collapse (lower query))) ∧
        (forall name : Name, name ∈ brands -> IsReported brands name) ∧
          forall name : Name, name ∈ categories ->
            (IsReported categories name <-> name ≠ ⟨[["video", "games"]]⟩) := by
  refine ⟨reportsMostSpecific_brands query, reportsMostSpecific_categories_iff query, ?_, ?_⟩
  · have hcheck : (brands.all fun name => reportedInOwnWords brands name) = true := by
      decide +kernel
    exact fun name hname => .of_own_words (List.all_eq_true.mp hcheck name hname)
  · have hcheck : (categories.all fun name =>
        name == ⟨[["video", "games"]]⟩ || reportedInOwnWords categories name) = true := by
      decide +kernel
    intro name hname
    constructor
    · rintro hreported rfl
      exact not_isReported_videoGames hreported
    · intro hne
      have hown := List.all_eq_true.mp hcheck name hname
      rw [Bool.or_eq_true, beq_iff_eq] at hown
      exact .of_own_words (hown.resolve_left hne)

theorem not_reportsMostSpecific_videoGames :
    ¬ ReportsMostSpecific categories (collapse (lower "video games".toList))
      (ofPhrases "video games".toList).criteria.category := by
  have hgames : (firstFound Name.pattern (collapse (lower "video games".toList)) categories).map
      (fun entry => (entry.1, entry.2.before)) = some (.single "games", "video ".toList) := by
    decide +kernel
  rcases Option.map_eq_some_iff.mp hgames with ⟨⟨name, found⟩, hfirst, heq⟩
  rcases Prod.mk.inj heq with ⟨hname, hbefore⟩
  have hvideo : FollowsVideo "video ".toList :=
    ⟨[], "video".toList, [' '], rfl, rfl,
      List.forall₂_same.mpr (List.all_eq_true.mp (by decide)), List.cons_ne_nil _ _,
      List.forall_mem_singleton.mpr isBlank_space⟩
  rw [reportsMostSpecific_categories_iff, not_not]
  refine ⟨found, ?_, ?_⟩
  · rw [hfirst, show name = _ from hname]
  · rw [show found.before = _ from hbefore]
    exact hvideo

end Reading

end CatalogSearch
