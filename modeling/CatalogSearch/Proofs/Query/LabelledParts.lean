import CatalogSearch.Proofs.Query.IdExpressions
import CatalogSearch.Query.Canonical
import CatalogSearch.Query.Interpretation

/-!
# Labelled parts behind a text

The canonical text of a reading is its residual text with labelled parts behind it.  No id
begins in the labelled parts.  An id of the residual text is found where it was; a mark at the
end of the residual text takes the first label for its id.
-/

namespace CatalogSearch

open Text Pattern

/-!
## Parts behind spaces
-/

namespace Reading

def behindSpaces (parts : List (List Char)) : List Char :=
  (parts.filter fun part => !part.isEmpty).flatMap fun part => ' ' :: part

theorem behindSpaces_append (front back : List (List Char)) :
    behindSpaces (front ++ back) = behindSpaces front ++ behindSpaces back := by
  rw [behindSpaces, List.filter_append, List.flatMap_append]
  rfl

theorem joinParts_cons (part : List Char) (rest : List (List Char)) :
    joinParts (part :: rest) = part ++ rest.flatMap fun part => ' ' :: part := by
  induction rest generalizing part with
  | nil => exact (List.append_nil part).symm
  | cons next rest ih =>
      have hjoin : joinParts (part :: next :: rest) = part ++ ' ' :: joinParts (next :: rest) := rfl
      rw [hjoin, ih, List.flatMap_cons, List.cons_append]

theorem strip_cons_blank
    {blank : Char} (hblank : isBlank blank = true) (text : List Char) :
    strip (blank :: text) = strip text := by
  unfold strip stripStart
  rw [List.dropWhile_cons_of_pos hblank]

/-- The canonical text is read as the residual text with the other parts behind spaces. -/
theorem strip_canonical (reading : Reading) :
    strip reading.canonical =
      strip (reading.residual ++ behindSpaces reading.canonicalParts.tail) := by
  have hparts : reading.canonicalParts = reading.residual :: reading.canonicalParts.tail := rfl
  rw [canonical, hparts, List.tail_cons, behindSpaces]
  cases hresidual : reading.residual with
  | cons c rest =>
      rw [List.filter_cons_of_pos rfl, joinParts_cons]
  | nil =>
      rw [List.filter_cons_of_neg (by decide), List.nil_append]
      cases reading.canonicalParts.tail.filter fun part => !part.isEmpty with
      | nil => rfl
      | cons part parts =>
          rw [joinParts_cons, List.flatMap_cons, List.cons_append, strip_cons_blank isBlank_space]

theorem ofQuery_strip (query : List Char) :
    ofQuery (strip query) = ofQuery query := by
  unfold ofQuery ofExpressions
  rw [strip_strip]

end Reading

/-!
## Labelled parts
-/

def labels : List (List Char) :=
  ["brand".toList, "category".toList, "price".toList, "sort".toList]

/-- Texts with labels, each behind a space.  The texts have solid ends and no colon in them. -/
inductive Labelled : List Char -> Prop where
  | nil : Labelled []
  | cons {label text rest : List Char} :
      label ∈ labels -> text ≠ [] -> SolidEnds text -> ':' ∉ text -> Labelled rest ->
        Labelled (' ' :: (label ++ ':' :: (text ++ rest)))

/-- What the labels are made of: characters of an id, no digits, and no end of a mark. -/
theorem labels_check :
    (labels.all fun label => !label.isEmpty &&
      (label.all fun c => c != ':' && !isBlank c && !isDigit c && isIdChar c) &&
        !(label.getLast?.any (sameLetter 'd') && label.dropLast.getLast?.any (sameLetter 'i'))) =
      true := by
  decide

section Label

variable {label : List Char} (h : label ∈ labels)

include h

theorem label_ne_nil : label ≠ [] := by
  have hcheck := List.all_eq_true.mp labels_check label h
  simp only [Bool.and_eq_true] at hcheck
  rintro rfl
  cases hcheck.1.1

theorem label_char {c : Char} (hc : c ∈ label) :
    c ≠ ':' ∧ isBlank c = false ∧ isDigit c = false ∧ isIdChar c = true := by
  have hcheck := List.all_eq_true.mp labels_check label h
  simp only [Bool.and_eq_true] at hcheck
  have hchar := List.all_eq_true.mp hcheck.1.2 c hc
  simp only [Bool.and_eq_true, bne_iff_ne, Bool.not_eq_true'] at hchar
  exact ⟨hchar.1.1.1, hchar.1.1.2, hchar.1.2, hchar.2⟩

theorem label_end {front : List Char} {x y : Char} (hlabel : label = front ++ [x, y]) :
    ¬ (sameLetter 'i' x = true ∧ sameLetter 'd' y = true) := by
  have hcheck := List.all_eq_true.mp labels_check label h
  simp only [Bool.and_eq_true] at hcheck
  have hends := hcheck.2
  have hsplit : label = (front ++ [x]) ++ [y] := by
    rw [hlabel, List.append_assoc]
    rfl
  rw [hsplit, List.getLast?_concat, List.dropLast_concat, List.getLast?_concat, Option.any_some,
    Option.any_some] at hends
  rintro ⟨hx, hy⟩
  rw [hx, hy] at hends
  cases hends

end Label

theorem colon_cases
    {label rest front back : List Char} (hlabel : ':' ∉ label)
    (h : label ++ ':' :: rest = front ++ ':' :: back) :
    front = label ∧ back = rest ∨
      exists more : List Char, front = label ++ ':' :: more ∧ rest = more ++ ':' :: back := by
  rcases List.append_eq_append_iff.mp h with ⟨more, heq, htail⟩ | ⟨more, heq, htail⟩
  · cases more with
    | nil => exact Or.inl ⟨by rw [heq, List.append_nil], (List.cons.inj htail).2.symm⟩
    | cons c more =>
        rcases List.cons.inj htail with ⟨rfl, hrest⟩
        exact Or.inr ⟨more, heq, hrest⟩
  · cases more with
    | nil => exact Or.inl ⟨by rw [heq, List.append_nil], (List.cons.inj htail).2⟩
    | cons c more =>
        rw [heq, ← (List.cons.inj htail).1] at hlabel
        exact absurd (List.mem_append_right _ List.mem_cons_self) hlabel

theorem label_unique
    {label label' rest rest' : List Char} (hlabel : label ∈ labels) (hlabel' : label' ∈ labels)
    (h : label ++ ':' :: rest = label' ++ ':' :: rest') :
    rest = rest' := by
  have hcolon : ':' ∉ label := fun hmem => (label_char hlabel hmem).1 rfl
  rcases colon_cases hcolon h with ⟨_, hrest⟩ | ⟨more, heq, _⟩
  · exact hrest.symm
  · have hmem : ':' ∈ label' := by
      rw [heq]
      exact List.mem_append_right _ List.mem_cons_self
    exact absurd rfl (label_char hlabel' hmem).1

namespace Labelled

variable {tail : List Char}

theorem cases_head (h : Labelled tail) :
    tail = [] ∨ exists label rest : List Char,
      label ∈ labels ∧ tail = ' ' :: (label ++ ':' :: rest) := by
  cases h with
  | nil => exact Or.inl rfl
  | cons hlabel _ _ _ _ => exact Or.inr ⟨_, _, hlabel, rfl⟩

theorem head_blank (h : Labelled tail) {c : Char} (hc : tail.head? = some c) :
    isBlank c = true := by
  rcases h.cases_head with rfl | ⟨label, rest, _, rfl⟩
  · cases hc
  · rw [← Option.some.inj hc]
    exact isBlank_space

theorem last_solid (h : Labelled tail) {c : Char} (hc : tail.getLast? = some c) :
    isBlank c = false := by
  induction h with
  | nil => cases hc
  | @cons label text rest _ hne hends _ _ ih =>
      have hsplit : ' ' :: (label ++ ':' :: (text ++ rest)) =
          (' ' :: (label ++ [':'])) ++ (text ++ rest) := by
        simp
      rw [hsplit, List.getLast?_append_of_ne_nil _ (List.append_ne_nil_of_left_ne_nil hne rest),
        List.getLast?_append] at hc
      cases hrest : rest.getLast? with
      | none =>
          rw [hrest] at hc
          exact hends.last c hc
      | some d =>
          rw [hrest] at hc
          exact ih (hrest.trans hc)

theorem append {back : List Char} (h : Labelled tail) (hback : Labelled back) :
    Labelled (tail ++ back) := by
  induction h with
  | nil => exact hback
  | @cons label text rest hlabel hne hends hcolon _ ih =>
      have hsplit : ' ' :: (label ++ ':' :: (text ++ rest)) ++ back =
          ' ' :: (label ++ ':' :: (text ++ (rest ++ back))) := by
        simp
      rw [hsplit]
      exact .cons hlabel hne hends hcolon ih

end Labelled

theorem last_behind_colon
    {label front more : List Char} {c : Char} (hc : c ≠ ':')
    (h : front ++ [c] = label ++ ':' :: more) :
    exists init : List Char, more = init ++ [c] ∧ front = label ++ ':' :: init := by
  rcases List.eq_nil_or_concat more with rfl | ⟨init, d, rfl⟩
  · exact absurd (List.cons.inj (List.append_inj' h rfl).2).1 hc
  · rw [List.concat_eq_append, ← List.cons_append, ← List.append_assoc] at h
    rcases List.append_inj' h rfl with ⟨hfront, hd⟩
    exact ⟨init, by rw [List.concat_eq_append, hd], hfront⟩

theorem infix_behind_colon
    {label rest : List Char} {x y : Char} (hlabel : ':' ∉ label) (hx : x ≠ ':') (hy : y ≠ ':')
    (h : [x, y, ':'] <:+: label ++ ':' :: rest) :
    (exists front : List Char, label = front ++ [x, y]) ∨ [x, y, ':'] <:+: rest := by
  rcases h with ⟨front, back, hsplit⟩
  have hfront : label ++ ':' :: rest = (front ++ [x, y]) ++ ':' :: back := by
    rw [← hsplit]
    simp
  rcases colon_cases hlabel hfront with ⟨heq, _⟩ | ⟨more, heq, hrest⟩
  · exact Or.inl ⟨front, heq.symm⟩
  · right
    have heq' : (front ++ [x]) ++ [y] = label ++ ':' :: more := by
      rw [← heq, List.append_assoc]
      rfl
    rcases last_behind_colon hy heq' with ⟨init, rfl, hinit⟩
    rcases last_behind_colon hx hinit with ⟨init, rfl, _⟩
    rw [hrest]
    exact ⟨init, back, by simp⟩

theorem idWord_chars
    {part : List Char}
    (hpart : List.Forall₂ (fun letter c => sameLetter letter c = true) "id:".toList part) :
    exists x y : Char, part = [x, y, ':'] ∧ sameLetter 'i' x = true ∧ sameLetter 'd' y = true ∧
      x ≠ ':' ∧ y ≠ ':' := by
  cases hpart with
  | @cons _ x _ _ hx hpart =>
      cases hpart with
      | @cons _ y _ _ hy hpart =>
          cases hpart with
          | @cons _ z _ _ hz hpart =>
              cases hpart
              rw [sameLetter_symbol (by decide) hz]
              refine ⟨x, y, rfl, hx, hy, ?_, ?_⟩
              · rintro rfl
                exact absurd hx (by decide)
              · rintro rfl
                exact absurd hy (by decide)

/-- The letters and the colon of a mark stand nowhere in labelled parts. -/
theorem Labelled.no_idWord
    {tail part : List Char} (h : Labelled tail)
    (hpart : List.Forall₂ (fun letter c => sameLetter letter c = true) "id:".toList part) :
    ¬ part <:+: tail := by
  have hblank : ' ' ∉ part := by
    intro hmem
    have hsolid := PriceForm.solid_of_letters hpart (by decide) hmem
    cases hsolid
  rcases idWord_chars hpart with ⟨x, y, rfl, hx, hy, hxColon, hyColon⟩
  induction h with
  | nil => exact fun hfound => List.cons_ne_nil _ _ (List.infix_nil.mp hfound)
  | @cons label text rest hlabel _ _ hcolon hrest ih =>
      have hfirst := infix_blank_iff (List.cons_ne_nil x [y, ':']) hblank []
        (label ++ ':' :: (text ++ rest))
      rw [List.nil_append] at hfirst
      rw [hfirst]
      rintro (hnil | hwithin)
      · exact List.cons_ne_nil _ _ (List.infix_nil.mp hnil)
      · have hlabelColon : ':' ∉ label := fun hmem => (label_char hlabel hmem).1 rfl
        rcases infix_behind_colon hlabelColon hxColon hyColon hwithin with
          ⟨front, hends⟩ | hbehind
        · exact label_end hlabel hends ⟨hx, hy⟩
        · have htext : ¬ [x, y, ':'] <:+: text := fun hfound =>
            hcolon (hfound.subset (List.mem_cons_of_mem x (List.mem_cons_of_mem y
              List.mem_cons_self)))
          rcases hrest.cases_head with rfl | ⟨label', rest', _, rfl⟩
          · rw [List.append_nil] at hbehind
            exact htext hbehind
          · rw [infix_blank_iff (List.cons_ne_nil x [y, ':']) hblank] at hbehind
            rcases hbehind with hfound | hfound
            · exact htext hfound
            · exact ih (hfound.trans (List.suffix_cons _ _).isInfix)

/-!
## Ids in a text with labelled parts
-/

def OpensId (before mark : List Char) : Prop :=
  Place.ReadsIdMark ⟨before, mark⟩ ⟨before ++ mark, []⟩

theorem Place.ReadsIdMark.word_within
    {first last : Place} {mark : List Char} (h : first.ReadsIdMark last)
    (hreads : first.Reads mark last) :
    exists word : List Char,
      List.Forall₂ (fun letter c => sameLetter letter c = true) "id:".toList word ∧
        word <:+: mark := by
  rcases h with ⟨hlead, ⟨word, hword, hletters⟩, gap, hgap, _⟩
  refine ⟨word, hletters, ?_⟩
  rcases hlead with ⟨_, rfl⟩ | ⟨blank, _, hlead⟩
  · rw [PriceForm.reads_unique (hword.trans hgap) hreads]
    exact ⟨[], gap, rfl⟩
  · rw [PriceForm.reads_unique (hlead.trans (hword.trans hgap)) hreads]
    exact ⟨[blank], gap, by simp⟩

theorem Place.ReadsIdMark.opens
    {before front rest : List Char} {blank : Char} (hblank : isBlank blank = true)
    (h : Place.ReadsIdMark ⟨before, front ++ blank :: rest⟩ ⟨before ++ front ++ [blank], rest⟩) :
    OpensId before front := by
  rcases h with ⟨hlead, ⟨word, hword, hletters⟩, gap, hgap, hgapBlank⟩
  have hbefore := hgap.before
  -- the letters of the mark are solid, so that the blank is one of the gap
  rcases List.eq_nil_or_concat gap with rfl | ⟨gap, c, rfl⟩
  · rw [List.append_nil, hword.before] at hbefore
    rcases List.eq_nil_or_concat word with rfl | ⟨word, d, rfl⟩
    · cases hletters
    · rw [List.concat_eq_append, ← List.append_assoc] at hbefore
      rw [(List.cons.inj (List.append_inj' hbefore rfl).2).1,
        PriceForm.solid_of_letters hletters (by decide) (by simp)] at hblank
      cases hblank
  · rw [List.concat_eq_append] at hgap hgapBlank hbefore
    rw [← List.append_assoc] at hbefore
    rcases List.append_inj' hbefore rfl with ⟨hfront, hc⟩
    rw [← (List.cons.inj hc).1] at hgap
    have hshort := hgap.rest
    rw [List.append_assoc, List.singleton_append] at hshort
    exact Place.ReadsIdMark.of_extend (blank :: rest)
      (.intro hlead ⟨word, hword, hletters⟩
        ⟨gap, ⟨hfront, hshort⟩, fun c hc => hgapBlank c (List.mem_append_left _ hc)⟩)

theorem not_next_of_search
    {text : List Char} (h : idExpression.search text = none) {first middle : Place}
    (htext : first.text = text) (hmark : first.ReadsIdMark middle) :
    ¬ middle.Next fun c => isIdChar c = true := by
  intro hnext
  rcases Place.exists_readsToken hnext with ⟨token, last, htoken⟩
  exact not_finds_of_search h htext token last (finds_idExpression.mpr ⟨middle, hmark, htoken⟩)

theorem after_label
    {label rest token after before : List Char} (hlabel : label ∈ labels)
    (hrest : label ++ ':' :: rest = token ++ after)
    (htoken : Place.ReadsToken ⟨before, token ++ after⟩ token ⟨before ++ token, after⟩) :
    after = ':' :: rest := by
  rcases List.append_eq_append_iff.mp hrest with ⟨more, heq, hafter⟩ | ⟨more, heq, hafter⟩
  · cases more with
    | nil => exact hafter.symm
    | cons c more =>
        have hid := htoken.chars c (by rw [heq]; simp)
        rw [← (List.cons.inj hafter).1] at hid
        exact absurd hid (by decide)
  · cases more with
    | nil => exact hafter
    | cons c more =>
        have hid := (label_char hlabel (c := c) (by rw [heq]; simp)).2.2.2
        rw [htoken.ends c (by rw [hafter]; rfl)] at hid
        cases hid

namespace Labelled

variable {base tail : List Char} (h : Labelled tail)

include h

theorem head_noId {c : Char} (hc : tail.head? = some c) : isIdChar c = false := by
  cases hid : isIdChar c with
  | false => rfl
  | true =>
      have hsolid := not_isBlank_of_isIdChar hid
      rw [h.head_blank hc] at hsolid
      cases hsolid

theorem search_drop : idExpression.search (tail.drop 1) = none := by
  cases hsearch : idExpression.search (tail.drop 1) with
  | none => rfl
  | some found =>
      rcases exists_leftmostId hsearch with ⟨mark, _, hsplit, hleftmost⟩
      rcases hleftmost.readsMark.word_within ⟨rfl, rfl⟩ with ⟨word, hletters, hwordPart⟩
      have hdrop : mark <:+: tail.drop 1 := by
        rw [hsplit, ← List.append_assoc]
        exact List.infix_append _ _ _
      exact absurd ((hwordPart.trans hdrop).trans (List.drop_suffix 1 tail).isInfix)
        (h.no_idWord hletters)

theorem solidEnds_append (hbase : SolidEnds base) (hne : base ≠ []) :
    SolidEnds (base ++ tail) := by
  constructor
  · intro c hc
    rw [List.head?_append_of_ne_nil base hne] at hc
    exact hbase.head c hc
  · intro c hc
    rw [List.getLast?_append] at hc
    cases hlast : tail.getLast? with
    | none =>
        rw [hlast] at hc
        exact hbase.last c hc
    | some d =>
        rw [hlast] at hc
        exact h.last_solid (hlast.trans hc)

section Mark

variable {before mark token after : List Char}
  (hsplit : base ++ tail = before ++ (mark ++ (token ++ after)))
  (hleftmost : LeftmostId before mark token after)

include hsplit hleftmost

/-- A mark that ends in a text without an id, or where it ends, has no id behind it. -/
theorem mark_ends_behind (hnone : idExpression.search base = none) :
    base.length < (before ++ mark).length := by
  by_contra hwithin
  have hmark := hleftmost.readsMark
  have hid := hleftmost.readsToken.next
  have hmiddle : Place.text ⟨before ++ mark, token ++ after⟩ = base ++ tail := by
    rw [hsplit, Place.text, List.append_assoc]
  rcases Place.exists_extend hmiddle (Nat.not_lt.mp hwithin) with ⟨short, hshort, htext⟩
  rw [hshort] at hmark hid
  rcases hmark.shorten with ⟨first, _, hearlier⟩
  have hnot := not_next_of_search hnone (hearlier.text_eq.symm.trans htext) hearlier
  by_cases hopen : short.rest = []
  · rcases hid with ⟨c, rest, hrest, hc⟩
    rw [Place.extend_rest, hopen, List.nil_append] at hrest
    have hno := h.head_noId (by rw [hrest]; rfl)
    rw [hc] at hno
    cases hno
  · have hwithin := hid.of_extend hopen []
    rw [Place.extend, List.append_nil] at hwithin
    exact hnot hwithin

theorem mark_begins_within : before.length < base.length := by
  by_contra hbehind
  have hbeginning : base <+: before := by
    apply List.prefix_of_prefix_length_le (List.prefix_append base tail) _ (Nat.not_lt.mp hbehind)
    rw [hsplit]
    exact List.prefix_append _ _
  rcases hbeginning with ⟨excess, hexcess⟩
  rw [← hexcess, List.append_assoc] at hsplit
  have hreads : Place.Reads ⟨before, mark ++ (token ++ after)⟩ mark
      ⟨before ++ mark, token ++ after⟩ := ⟨rfl, rfl⟩
  rcases hleftmost.readsMark.word_within hreads with ⟨word, hletters, hwordPart⟩
  apply h.no_idWord hletters
  rw [List.append_cancel_left hsplit, ← List.append_assoc]
  exact hwordPart.trans (List.infix_append _ _ _)

/-- Behind a text the labelled parts give no id, or a mark at the end of the text takes the first
label for its id. -/
theorem exists_opensId (hnone : idExpression.search base = none) :
    exists front label rest : List Char,
      base = before ++ front ∧ mark = front ++ [' '] ∧ OpensId before front ∧ label ∈ labels ∧
        tail = ' ' :: (label ++ ':' :: rest) ∧ after = ':' :: rest := by
  have hmark := hleftmost.readsMark
  have hreads : Place.Reads ⟨before, mark ++ (token ++ after)⟩ mark
      ⟨before ++ mark, token ++ after⟩ := ⟨rfl, rfl⟩
  have hends := h.mark_ends_behind hsplit hleftmost hnone
  have hbegins := h.mark_begins_within hsplit hleftmost
  rcases h.cases_head with rfl | ⟨label, rest, hlabel, rfl⟩
  · have htotal := congrArg List.length hsplit
    simp only [List.length_append, List.length_nil] at htotal hends
    omega
  · rcases PriceForm.split_at hreads hsplit.symm (Nat.le_of_lt hbegins) hends with
      ⟨front, back, hpart, hbase⟩
    have hbase' : base = before ++ front := hbase
    have hfront : front ≠ [] := by
      rintro rfl
      rw [hbase', List.append_nil] at hbegins
      exact Nat.lt_irrefl _ hbegins
    rw [hpart] at hreads hsplit hmark
    have hrest : label ++ ':' :: rest = back ++ (token ++ after) := by
      rw [hbase', List.append_assoc, List.append_cancel_left_eq, List.append_assoc,
        List.append_cancel_left_eq] at hsplit
      exact (List.cons.inj hsplit).2
    -- behind its letters a mark is white space, and a label is solid
    have hback : back = [] := by
      cases back with
      | nil => rfl
      | cons c back =>
          have hblank := hmark.blank_behind hreads hfront isBlank_space List.mem_cons_self
          rcases List.exists_cons_of_ne_nil (label_ne_nil hlabel) with ⟨d, label', rfl⟩
          rw [← (List.cons.inj hrest).1, (label_char hlabel List.mem_cons_self).2.1] at hblank
          cases hblank
    rw [hback] at hpart hrest hmark
    refine ⟨front, label, rest, hbase', hpart, ?_, hlabel, rfl, ?_⟩
    · rw [List.append_assoc, ← List.append_assoc before front] at hmark
      exact hmark.opens isBlank_space
    · exact after_label hlabel hrest hleftmost.readsToken

end Mark

end Labelled

namespace Reading

variable {base tail : List Char}

theorem withoutId_labelled (h : Labelled tail) : withoutId tail = tail.drop 1 := by
  have hstrip : strip tail = tail.drop 1 := by
    cases h with
    | nil => rfl
    | @cons label text rest hlabel hne hends hcolon hrest =>
        rw [strip_cons_blank isBlank_space, List.drop_one, List.tail_cons, ← solidEnds_iff]
        have hwhole := Labelled.cons hlabel hne hends hcolon hrest
        constructor
        · intro c hc
          rcases List.exists_cons_of_ne_nil (label_ne_nil hlabel) with ⟨d, label', rfl⟩
          rw [← Option.some.inj hc]
          exact (label_char hlabel List.mem_cons_self).2.1
        · intro c hc
          apply hwhole.last_solid
          rw [List.getLast?_cons, hc]
          rfl
  rw [withoutId, hstrip, h.search_drop]

/-- Labelled parts stay behind a text without its id.  Only if a mark without an id ends the text
the first label is cut out as an id. -/
theorem withoutId_append (hbase : SolidEnds base) (hne : base ≠ []) (h : Labelled tail) :
    withoutId (base ++ tail) = withoutId base ++ tail ∨
      exists before front label rest : List Char,
        base = before ++ front ∧ OpensId before front ∧ withoutId base = base ∧ label ∈ labels ∧
          tail = ' ' :: (label ++ ':' :: rest) ∧
          withoutId (base ++ tail) = before ++ ' ' :: ':' :: rest := by
  have hstrip := (solidEnds_iff _).mp (h.solidEnds_append hbase hne)
  have hstripBase := (solidEnds_iff base).mp hbase
  cases hsearch : idExpression.search base with
  | some found =>
      left
      rcases exists_leftmostId hsearch with ⟨mark, _, hsplit, hleftmost⟩
      have hends : forall c : Char, (found.after ++ tail).head? = some c ->
          isIdChar c = false := by
        intro c hc
        cases hafter : found.after with
        | nil =>
            rw [hafter, List.nil_append] at hc
            exact h.head_noId hc
        | cons d after =>
            rw [hafter] at hc
            exact hleftmost.readsToken.ends c (by rw [hafter]; exact hc)
      have hsearch' := (hleftmost.replace hleftmost.readsToken.ne_nil hleftmost.readsToken.chars
        hends).search
      have hsplit' : base ++ tail =
          found.before ++ (mark ++ (found.value ++ (found.after ++ tail))) := by
        rw [hsplit]
        simp only [List.append_assoc]
      rw [withoutId, withoutId, hstrip, hstripBase, hsearch, hsplit', hsearch']
      show found.before ++ ' ' :: (found.after ++ tail) =
        (found.before ++ ' ' :: found.after) ++ tail
      rw [List.append_assoc, List.cons_append]
  | none =>
      have hwithout : withoutId base = base := by
        rw [withoutId, hstripBase, hsearch]
      cases hsearch' : idExpression.search (base ++ tail) with
      | none =>
          left
          rw [hwithout, withoutId, hstrip, hsearch']
      | some found =>
          right
          rcases exists_leftmostId hsearch' with ⟨mark, _, hsplit, hleftmost⟩
          rcases h.exists_opensId hsplit hleftmost hsearch with
            ⟨front, label, rest, hbase', _, hopens, hlabel, htail, hafter⟩
          refine ⟨found.before, front, label, rest, hbase', hopens, hwithout, hlabel, htail, ?_⟩
          rw [withoutId, hstrip, hsearch', ← hafter]

end Reading

end CatalogSearch
