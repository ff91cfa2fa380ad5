import CatalogSearch.Proofs.Query.LabelledParts
import CatalogSearch.Proofs.Query.PriceTails
import CatalogSearch.Proofs.Query.SpecificNames
import CatalogSearch.Proofs.Query.Stripping

/-!
# The parts of the canonical text

Behind the residual text the canonical text has its labelled parts.  Those of the brand, the
category and the order show no digit, and no label begins a price phrase, so that they put no
price and change none.
-/

namespace CatalogSearch

open Text Pattern

/-!
## Parts without a digit
-/

theorem label_opens {label : List Char} (h : label ∈ labels) :
    label.head?.any Phrase.opensOutsider = true := by
  have hopens : (labels.all fun label => label.head?.any Phrase.opensOutsider) = true := by
    decide
  exact List.all_eq_true.mp hopens label h

structure SilentParts (tail : List Char) : Prop where
  labelled : Labelled tail
  digits : forall c : Char, c ∈ tail -> isDigit c = false

theorem silentParts_nil : SilentParts [] :=
  ⟨.nil, List.forall_mem_nil _⟩

namespace SilentParts

variable {tail : List Char} (h : SilentParts tail)

include h

theorem append {back : List Char} (hback : SilentParts back) :
    SilentParts (tail ++ back) :=
  ⟨h.labelled.append hback.labelled, List.forall_mem_append.mpr ⟨h.digits, hback.digits⟩⟩

theorem quiet : Quiet tail :=
  ⟨fun _ => h.labelled.head_blank, h.digits⟩

theorem outside : tail = [] ∨ Phrase.Outside tail := by
  rcases h.labelled.cases_head with hnil | ⟨label, rest, hlabel, htail⟩
  · exact Or.inl hnil
  · have hdigits := h.digits
    have hfirst := label_opens hlabel
    rcases List.exists_cons_of_ne_nil (label_ne_nil hlabel) with ⟨c, more, rfl⟩
    rw [htail] at hdigits ⊢
    exact Or.inr (.intro isBlank_space hfirst (List.forall_mem_cons.mp hdigits).2)

end SilentParts

theorem Labelled.endsForms
    {tail : List Char} (h : Labelled tail) (hne : tail ≠ []) :
    EndsForms tail := by
  rcases h.cases_head with hnil | ⟨label, rest, hlabel, rfl⟩
  · exact absurd hnil hne
  · have hfirst := label_opens hlabel
    rcases List.exists_cons_of_ne_nil (label_ne_nil hlabel) with ⟨c, more, rfl⟩
    exact .intro isBlank_space (Phrase.not_isFormChar_of_opensOutsider hfirst
      (label_char hlabel List.mem_cons_self).2.2.1)

/-!
## What they name
-/

namespace Reading

structure IsNameText (text : List Char) : Prop where
  ends : SolidEnds text
  chars : forall c : Char, c ∈ text -> c ≠ ':' ∧ isDigit c = false

theorem silentParts_marked
    {mark : String} (label : List Char) (hlabel : label ∈ labels)
    (hmark : mark.toList = label ++ [':']) {name : Option String}
    (hname : forall text : String, name = some text -> IsNameText text.toList) :
    SilentParts (behindSpaces [marked mark name]) := by
  cases name with
  | none => exact silentParts_nil
  | some text =>
      have htext := hname text rfl
      rw [marked]
      by_cases hne : text.isEmpty = true
      · rw [if_pos hne]
        exact silentParts_nil
      · rw [if_neg hne]
        have hbehind : behindSpaces [mark.toList ++ text.toList] =
            ' ' :: (label ++ ':' :: (text.toList ++ [])) := by
          rw [hmark, List.append_assoc, behindSpaces, List.filter_cons_of_pos (by simp)]
          simp
        rw [hbehind]
        refine ⟨.cons hlabel (by simpa using hne) htext.ends
          (fun hmem => (htext.chars ':' hmem).1 rfl) .nil, ?_⟩
        intro c hc
        rcases List.mem_cons.mp hc with rfl | hc
        · rfl
        · rcases List.mem_append.mp hc with hc | hc
          · exact (label_char hlabel hc).2.2.1
          · rcases List.mem_cons.mp hc with rfl | hc
            · rfl
            · rw [List.append_nil] at hc
              exact (htext.chars c hc).2

theorem isNameText_of_firstFound
    {names : List Phrase.Name} {query : List Char} {text : String}
    (hletters : (names.all fun name => name.spellings.all fun words =>
      words.all fun word => word.toList.all Char.isLower) = true)
    (h : (Phrase.firstFound Phrase.Name.pattern query names).map
      (fun entry => String.ofList (collapse entry.2.text)) = some text) :
    IsNameText text.toList := by
  rcases Option.map_eq_some_iff.mp h with ⟨⟨name, found⟩, hfirst, rfl⟩
  rcases Phrase.firstFound_eq_some hfirst with ⟨hname, hsearch⟩
  have hcovers : Covers (fun c => c ≠ ':' ∧ isDigit c = false) name.pattern := by
    apply covers_anyOf
    intro pattern hpattern
    rcases List.mem_map.mp hpattern with ⟨list, hlist, rfl⟩
    apply covers_boundedWords
    · intro c hc
      refine ⟨?_, not_isDigit_of_isBlank c hc⟩
      rintro rfl
      cases hc
    · intro word hword letter hletter c hc
      have hlower := List.all_eq_true.mp (List.all_eq_true.mp (List.all_eq_true.mp
        (List.all_eq_true.mp hletters name hname) list hlist) word hword) letter hletter
      refine ⟨?_, Phrase.not_isDigit_of_sameLetter hlower hc⟩
      rintro rfl
      exact absurd (isWordChar_of_sameLetter hlower hc) (by decide)
  rw [String.toList_ofList]
  refine ⟨solidEnds_collapse found.text, ?_⟩
  intro c hc
  rcases mem_collapse hc with rfl | hmem
  · exact ⟨by decide, rfl⟩
  · exact (hcovers.chars (foundAt_of_search hcovers hsearch).fits) c hmem

theorem isNameText_sort (sort : SortIntent) :
    IsNameText sort.name.toList := by
  have hcheck : (sort.name.toList.all fun c => !isBlank c && c != ':' && !isDigit c) = true := by
    cases sort <;> decide
  have hchars : forall c : Char, c ∈ sort.name.toList ->
      isBlank c = false ∧ c ≠ ':' ∧ isDigit c = false := by
    intro c hc
    have hchar := List.all_eq_true.mp hcheck c hc
    simp only [Bool.and_eq_true, Bool.not_eq_true', bne_iff_ne] at hchar
    exact ⟨hchar.1.1, hchar.1.2, hchar.2⟩
  exact ⟨solidEnds_of_solid fun c hc => (hchars c hc).1, fun c hc => (hchars c hc).2⟩

def shownNames (reading : Reading) : List Char :=
  behindSpaces [marked "brand:" reading.criteria.brand] ++
    behindSpaces [marked "category:" reading.criteria.category]

theorem silentParts_shownNames (query : List Char) :
    SilentParts (ofQuery query).shownNames := by
  apply SilentParts.append
  · refine silentParts_marked "brand".toList (by decide) (by decide) ?_
    exact fun text htext =>
      isNameText_of_firstFound (by decide) ((ofPhrases_names _).1.symm.trans htext)
  · refine silentParts_marked "category".toList (by decide) (by decide) ?_
    exact fun text htext =>
      isNameText_of_firstFound (by decide) ((ofPhrases_names _).2.symm.trans htext)

/-- The canonical text names the brand and the category in front of the price and the order behind
it. -/
theorem exists_silentParts (query : List Char) :
    exists back : List Char, SilentParts back ∧ '-' ∉ back ∧
      behindSpaces (ofQuery query).canonicalParts.tail =
        (ofQuery query).shownNames ++ (behindSpaces [((ofQuery query).criteria.price.map
          PricePredicate.canonical).getD []] ++ back) := by
  refine ⟨behindSpaces [marked "sort:" ((ofQuery query).criteria.sort.map SortIntent.name)],
    ?_, ?_, ?_⟩
  · refine silentParts_marked "sort".toList (by decide) (by decide) ?_
    intro text htext
    rcases Option.map_eq_some_iff.mp htext with ⟨sort, _, rfl⟩
    exact isNameText_sort sort
  · cases (ofQuery query).criteria.sort with
    | none => exact List.not_mem_nil
    | some sort => cases sort <;> decide
  · rw [shownNames, List.append_assoc, ← behindSpaces_append, ← behindSpaces_append,
      ← behindSpaces_append]
    rfl

theorem ofQuery_canonical (query : List Char) :
    ofQuery (ofQuery query).canonical =
      ofQuery ((ofQuery query).residual ++ behindSpaces (ofQuery query).canonicalParts.tail) := by
  rw [← ofQuery_strip, strip_canonical, ofQuery_strip]

end Reading

/-!
## Marks without an id
-/

theorem opensOutsider_of_sameLetter {c : Char} (h : sameLetter 'i' c = true) :
    Phrase.opensOutsider c = true := by
  have hcodes : ([0x17F, 0x212A, 0x130, 0x131].all fun code =>
      !sameLetter 'i' (Char.ofNat code) || Phrase.opensOutsider (Char.ofNat code)) = true := by
    decide
  rcases sameLetter_cases h with rfl | ⟨hupper, _⟩ | ⟨_, hcode⟩
  · decide
  · have hletter : sameLetter 'i' c = true -> Phrase.opensOutsider c = true :=
      forall_ascii (toNat_lt_of_isUpper hupper) (by decide)
    exact hletter h
  · have hc := List.all_eq_true.mp hcodes c.toNat hcode
    rw [Char.ofNat_toNat, h] at hc
    exact hc

theorem PriceForm.not_isDigit_of_letters
    {list part : List Char}
    (h : List.Forall₂ (fun letter c => sameLetter letter c = true) list part)
    (hlist : (list.all fun letter => !isDigit letter) = true) {c : Char} (hc : c ∈ part) :
    isDigit c = false := by
  rcases exists_letter h hc with ⟨letter, hletter, hsame⟩
  rcases Bool.eq_false_or_eq_true letter.isLower with hlower | hsymbol
  · exact Phrase.not_isDigit_of_sameLetter hlower hsame
  · rw [sameLetter_symbol hsymbol hsame]
    exact (Bool.not_eq_true' _).mp (List.all_eq_true.mp hlist letter hletter)

namespace OpensId

variable {before mark : List Char} (h : OpensId before mark)

include h

theorem starts :
    (forall c : Char, c ∈ mark -> isDigit c = false) ∧
      (before = [] ∨ exists (blank c : Char) (rest : List Char),
        isBlank blank = true ∧ sameLetter 'i' c = true ∧ mark = blank :: c :: rest) := by
  rcases h with ⟨hlead, ⟨word, hword, hletters⟩, gap, hgap, hgapBlank⟩
  have hdigits : forall c : Char, c ∈ word ++ gap -> isDigit c = false := by
    intro c hc
    rcases List.mem_append.mp hc with hc | hc
    · exact PriceForm.not_isDigit_of_letters hletters (by decide) hc
    · exact not_isDigit_of_isBlank c (hgapBlank c hc)
  have hreads : Place.Reads ⟨before, mark⟩ mark ⟨before ++ mark, []⟩ :=
    ⟨rfl, (List.append_nil _).symm⟩
  rcases hlead with ⟨hstart, rfl⟩ | ⟨blank, hblank, hlead⟩
  · rw [PriceForm.reads_unique (hword.trans hgap) hreads]
    exact ⟨hdigits, Or.inl hstart⟩
  · rw [PriceForm.reads_unique (hlead.trans (hword.trans hgap)) hreads]
    refine ⟨List.forall_mem_cons.mpr ⟨not_isDigit_of_isBlank blank hblank, hdigits⟩, Or.inr ?_⟩
    cases hletters with
    | cons hfirst _ => exact ⟨blank, _, _, hblank, hfirst, rfl⟩

theorem outside : before = [] ∨ Phrase.Outside mark := by
  rcases h.starts with ⟨hdigits, hstart | ⟨blank, c, rest, hblank, hletter, rfl⟩⟩
  · exact Or.inl hstart
  · exact Or.inr (.intro hblank (opensOutsider_of_sameLetter hletter)
      (List.forall_mem_cons.mp hdigits).2)

end OpensId

namespace Reading

/-- Silent parts change no price of the text in front of them. -/
theorem ofQuery_price_append
    {base tail : List Char} (hbase : SolidEnds base) (htail : SilentParts tail) :
    (ofQuery (base ++ tail)).criteria.price = (ofQuery base).criteria.price := by
  rw [ofQuery_price, ofQuery_price]
  by_cases hne : base = []
  · have hnil : withoutId [] = [] := by decide
    rw [hne, List.nil_append, withoutId_labelled htail.labelled, hnil,
      textPrice_of_digits fun c hc => htail.digits c (List.mem_of_mem_drop hc),
      textPrice_of_digits (List.forall_mem_nil _)]
  · rcases withoutId_append hbase hne htail.labelled with
      happend | ⟨before, mark, label, rest, hsplit, hopens, hwithout, _, htail', happend⟩
    · rw [happend]
      rcases htail.outside with hnil | houtside
      · rw [hnil, List.append_nil]
      · exact textPrice_outside houtside _
    · have hcolon : Phrase.Outside (' ' :: ':' :: rest) := by
        refine .intro isBlank_space (by decide) ?_
        intro c hc
        apply htail.digits
        rw [htail']
        exact List.mem_cons_of_mem ' ' (List.mem_append_right label hc)
      rw [happend, hwithout, hsplit, textPrice_outside hcolon]
      rcases hopens.outside with hstart | houtside
      · rw [hstart, List.nil_append, textPrice_of_digits (List.forall_mem_nil _),
          textPrice_of_digits hopens.starts.1]
      · rw [textPrice_outside houtside]

end Reading

end CatalogSearch
