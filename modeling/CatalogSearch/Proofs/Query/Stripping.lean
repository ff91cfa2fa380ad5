import CatalogSearch.Proofs.Query.Blanking
import CatalogSearch.Proofs.Query.PhraseCuts
import CatalogSearch.Proofs.Query.Respacing

/-!
# What stripping leaves

The phrases of a query are stripped in one pass for each rule.  A later pass can bring the
pieces of a phrase together for a rule that was passed before; nothing else can leave a phrase
in what remains.
-/

namespace CatalogSearch

open Text Pattern

namespace Phrase

/-!
## The rules
-/

def stripRules (brand category : Option Name) : List (Pattern Unit) :=
  prices.map (fun pattern => (fun _ => ()) <$> pattern) ++
    ([brand, category].filterMap fun name => name.map Name.pattern) ++
    sorts.map Prod.fst ++ [filler]

/-- A text in which no rule of the stripping is found. -/
structure FreeOfPhrases (brand category : Option Name) (text : List Char) : Prop where
  price : forall pattern : Pattern PriceBound, pattern ∈ prices -> pattern.search text = none
  name : forall name : Name, brand = some name ∨ category = some name ->
    name.pattern.search text = none
  sort : forall (pattern : Pattern Unit) (intent : SortIntent), (pattern, intent) ∈ sorts ->
    pattern.search text = none
  filler : filler.search text = none

section Map

variable {α β : Type} (f : α -> β) (pattern : Pattern α)

theorem map_eq_none_iff (prev : Option Char) (text : List Char) :
    (f <$> pattern) prev text = none <-> pattern prev text = none := by
  constructor
  · intro h
    cases hhit : pattern prev text with
    | none => rfl
    | some hit =>
        rw [map_eq_some.mpr ⟨hit, hhit, rfl⟩] at h
        cases h
  · exact bind_of_none

theorem search_map_eq_none_iff (text : List Char) :
    (f <$> pattern).search text = none <-> pattern.search text = none := by
  unfold search
  generalize none = prev
  induction text generalizing prev with
  | nil =>
      rw [searchFrom, searchFrom, Option.map_eq_none_iff, Option.map_eq_none_iff]
      exact map_eq_none_iff f pattern prev []
  | cons c rest ih =>
      rw [searchFrom, searchFrom]
      cases hhit : pattern prev (c :: rest) with
      | none =>
          rw [(map_eq_none_iff f pattern prev _).mpr hhit, Option.map_eq_none_iff,
            Option.map_eq_none_iff]
          exact ih (some c)
      | some hit =>
          rw [map_eq_some.mpr ⟨hit, hhit, rfl⟩]
          apply iff_of_false <;> intro h <;> cases h

theorem blankAll_map (text : List Char) :
    (f <$> pattern).blankAll text = pattern.blankAll text := by
  unfold blankAll
  generalize none = prev
  generalize 0 = covered
  induction text generalizing prev covered with
  | nil => rfl
  | cons c rest ih =>
      cases covered with
      | succ left => exact ih (some c) left
      | zero =>
          rw [blankFrom, blankFrom]
          cases hhit : pattern prev (c :: rest) with
          | none =>
              rw [(map_eq_none_iff f pattern prev _).mpr hhit]
              exact congrArg _ (ih (some c) 0)
          | some hit =>
              rw [map_eq_some.mpr ⟨hit, hhit, rfl⟩]
              rcases hit with ⟨value, text, after⟩
              cases text with
              | nil => exact congrArg _ (ih (some c) 0)
              | cons d text => exact congrArg _ (ih (some c) text.length)

end Map

theorem mem_stripRules {brand category : Option Name} {rule : Pattern Unit} :
    rule ∈ stripRules brand category <->
      (exists pattern : Pattern PriceBound, pattern ∈ prices ∧ (fun _ => ()) <$> pattern = rule) ∨
      (exists name : Name, (brand = some name ∨ category = some name) ∧ name.pattern = rule) ∨
      (exists intent : SortIntent, (rule, intent) ∈ sorts) ∨ rule = filler := by
  unfold stripRules
  simp only [List.mem_append, List.mem_map, List.mem_filterMap, List.mem_cons,
    List.not_mem_nil, or_false, Option.map_eq_some_iff, Prod.exists, exists_and_right,
    exists_eq_right, or_assoc]
  constructor
  · rintro (hprice | ⟨name, hname, named, rfl, hrule⟩ | hlater)
    · exact Or.inl hprice
    · exact Or.inr (Or.inl ⟨named, hname.imp Eq.symm Eq.symm, hrule⟩)
    · exact Or.inr (Or.inr hlater)
  · rintro (hprice | ⟨named, hname, hrule⟩ | hlater)
    · exact Or.inl hprice
    · exact Or.inr (Or.inl ⟨some named, hname.imp Eq.symm Eq.symm, named, rfl, hrule⟩)
    · exact Or.inr (Or.inr hlater)

theorem freeOfPhrases_iff {brand category : Option Name} {text : List Char} :
    FreeOfPhrases brand category text <->
      forall rule : Pattern Unit, rule ∈ stripRules brand category -> rule.search text = none := by
  constructor
  · intro h rule hrule
    rcases mem_stripRules.mp hrule with
      ⟨pattern, hmem, rfl⟩ | ⟨name, hname, rfl⟩ | ⟨intent, hmem⟩ | rfl
    · exact (search_map_eq_none_iff _ pattern text).mpr (h.price pattern hmem)
    · exact h.name name hname
    · exact h.sort rule intent hmem
    · exact h.filler
  · intro h
    constructor
    · intro pattern hmem
      exact (search_map_eq_none_iff _ pattern text).mp
        (h _ (mem_stripRules.mpr (Or.inl ⟨pattern, hmem, rfl⟩)))
    · intro name hname
      exact h _ (mem_stripRules.mpr (Or.inr (Or.inl ⟨name, hname, rfl⟩)))
    · intro pattern intent hmem
      exact h _ (mem_stripRules.mpr (Or.inr (Or.inr (Or.inl ⟨intent, hmem⟩))))
    · exact h _ (mem_stripRules.mpr (Or.inr (Or.inr (Or.inr rfl))))

theorem strippedOf_eq (brand category : Option Name) (query : List Char) :
    strippedOf brand category query =
      collapse ((stripRules brand category).foldl (fun text rule => rule.blankAll text) query) := by
  unfold strippedOf stripRules
  simp only [List.foldl_append, List.foldl_map, blankAll_map, List.foldl_cons, List.foldl_nil]
  cases brand <;> cases category <;>
    simp only [List.filterMap_cons, Option.map_none, Option.map_some, List.filterMap_nil,
      List.foldl_cons, List.foldl_nil]

/-!
## Sound rules
-/

structure IsRule (rule : Pattern Unit) : Prop where
  shortens : rule.Shortens
  lasts : rule.Lasts
  agrees : Agrees Respaced.Spots rule
  opensSolid : OpensSolid rule

def Part.least : Part -> Nat
  | .boundary => 0
  | .blanks => 0
  | _ => 1

def leastLength : List Part -> Nat
  | [] => 0
  | part :: rest => part.least + leastLength rest

def beginsSolid : List Part -> Bool
  | .boundary :: rest => solidAhead [] rest
  | parts => solidAhead [] parts

def isSound (parts : List Part) : Bool :=
  wellFormed [] parts && beginsSolid parts && decide (2 ≤ leastLength parts)

theorem Part.least_le_length
    {part : Part} {prev : Option Char} {text : List Char} {hit : Hit (List Digits)}
    (h : part.pattern prev text = some hit) :
    part.least ≤ hit.text.length := by
  cases part with
  | boundary => exact Nat.zero_le _
  | blanks => exact Nat.zero_le _
  | letter letter =>
      rcases map_eq_some.mp h with ⟨inner, hinner, rfl⟩
      rcases charWhere_eq_some.mp hinner with ⟨c, _, _, _, rfl⟩
      exact Nat.le_refl 1
  | symbol symbol =>
      rcases map_eq_some.mp h with ⟨inner, hinner, rfl⟩
      rcases charWhere_eq_some.mp hinner with ⟨c, _, _, _, rfl⟩
      exact Nat.le_refl 1
  | someBlanks =>
      rcases map_eq_some.mp h with ⟨inner, hinner, rfl⟩
      rcases bind_parts hinner with ⟨run, _, hrun, _, _, htext, _⟩
      rcases someWhere_eq_some.mp hrun with ⟨hne, hvalue⟩
      show 1 ≤ inner.text.length
      rw [htext, hvalue, List.length_append]
      exact Nat.le_add_right_of_le (List.length_pos_of_ne_nil hne)
  | amount =>
      rcases map_eq_some.mp h with ⟨inner, hinner, rfl⟩
      rcases shows_amount _ _ inner hinner with ⟨c, hc, _⟩
      exact List.length_pos_of_mem hc

theorem leastLength_le_length
    {parts : List Part} {prev : Option Char} {text : List Char} {hit : Hit (List Digits)}
    (h : readParts parts prev text = some hit) :
    leastLength parts ≤ hit.text.length := by
  induction parts generalizing prev text hit with
  | nil => exact Nat.zero_le _
  | cons part rest ih =>
      rw [readParts_cons] at h
      rcases bind_parts h with ⟨lead, last, hlead, hlast, _, htext, _⟩
      rcases map_eq_some.mp hlast with ⟨inner, hinner, rfl⟩
      have hpart := Part.least_le_length hlead
      have hrest := ih hinner
      rw [htext, List.length_append]
      exact Nat.add_le_add hpart hrest

theorem opensSolid_readParts {parts : List Part} (h : beginsSolid parts = true) :
    OpensSolid (readParts parts) := by
  have hsolid : forall {parts : List Part}, solidAhead [] parts = true ->
      OpensSolid (readParts parts) := by
    intro parts hahead prev text hit hhit
    rcases head_of_solidAhead hahead hhit with ⟨c, hhead, hc, _⟩
    exact ⟨c, hhead, hc⟩
  cases parts with
  | nil => cases h
  | cons part rest =>
      cases part with
      | boundary =>
          intro prev text hit hhit
          rw [readParts_boundary] at hhit
          rcases bind_parts hhit with ⟨lead, last, hlead, hlast, _⟩
          have hplace : lead.rest = text := by
            unfold boundary at hlead
            split at hlead
            · rw [← Option.some.inj hlead]
            · cases hlead
          rw [hplace] at hlast
          exact hsolid h _ _ last hlast
      | letter letter => exact hsolid h
      | symbol symbol => exact hsolid h
      | someBlanks => exact hsolid h
      | blanks => exact hsolid h
      | amount => exact hsolid h

theorem exists_of_anyOf
    {α : Type} {patterns : List (Pattern α)} {prev : Option Char} {text : List Char} {hit : Hit α}
    (h : anyOf patterns prev text = some hit) :
    exists pattern : Pattern α, pattern ∈ patterns ∧ pattern prev text = some hit := by
  induction patterns with
  | nil => cases h
  | cons pattern patterns ih =>
      rcases orElse_eq_some.mp h with hfirst | ⟨_, hrest⟩
      · exact ⟨pattern, List.mem_cons_self, hfirst⟩
      · rcases ih hrest with ⟨other, hmem, hother⟩
        exact ⟨other, List.mem_cons_of_mem pattern hmem, hother⟩

theorem isRule_readsOne
    {alternatives : List (List Part)} (h : alternatives.all isSound = true) :
    IsRule (readsOne alternatives) := by
  have hsound : forall parts : List Part, parts ∈ alternatives ->
      (wellFormed [] parts = true ∧ beginsSolid parts = true) ∧
        2 ≤ leastLength parts := by
    intro parts hmem
    have hparts := List.all_eq_true.mp h parts hmem
    rw [isSound, Bool.and_eq_true, Bool.and_eq_true] at hparts
    exact ⟨hparts.1, of_decide_eq_true hparts.2⟩
  have hwell : (alternatives.all fun parts => wellFormed [] parts) = true :=
    List.all_eq_true.mpr fun parts hmem => (hsound parts hmem).1.1
  have hread : forall {prev : Option Char} {text : List Char} {hit : Hit Unit},
      readsOne alternatives prev text = some hit ->
        exists (parts : List Part) (inner : Hit (List Digits)), parts ∈ alternatives ∧
          readParts parts prev text = some inner ∧ hit.text = inner.text := by
    intro prev text hit hhit
    rcases exists_of_anyOf hhit with ⟨pattern, hmem, hpattern⟩
    rcases List.mem_map.mp hmem with ⟨parts, hparts, rfl⟩
    rcases map_eq_some.mp hpattern with ⟨inner, hinner, rfl⟩
    exact ⟨parts, inner, hparts, hinner, rfl⟩
  constructor
  · constructor
    · intro prev text hit hhit
      rcases hread hhit with ⟨parts, inner, hparts, hinner, htext⟩
      rw [htext]
      exact Nat.le_trans (hsound parts hparts).2 (leastLength_le_length hinner)
    · apply covers_anyOf
      intro pattern hmem
      rcases List.mem_map.mp hmem with ⟨parts, _, rfl⟩
      exact (covers_readParts parts).map _
  · exact lasts_readsOne hwell
  · exact agrees_readsOne Respaced.tracks hwell
  · intro prev text hit hhit
    rcases hread hhit with ⟨parts, inner, hparts, hinner, _⟩
    exact opensSolid_readParts (hsound parts hparts).1.2 _ _ inner hinner

theorem isRule_of_mem_stripRules
    {brand category : Option Name} (hbrand : forall name : Name, brand = some name -> name ∈ brands)
    (hcategory : forall name : Name, category = some name -> name ∈ categories)
    {rule : Pattern Unit} (h : rule ∈ stripRules brand category) :
    IsRule rule := by
  have hnames : forall name : Name, name ∈ brands ++ categories ->
      ((name.spellings.map boundedParts).all isSound) = true := by decide
  have hshapes : forall shape : List Part × (List Digits -> PriceBound), shape ∈ priceShapes ->
      isSound shape.1 = true := by
    have hall : (priceShapes.map Prod.fst).all isSound = true := by decide
    intro shape hmem
    exact List.all_eq_true.mp hall shape.1 (List.mem_map_of_mem hmem)
  have hsorts : forall shape : List (List Part), shape ∈ sortShapes ->
      shape.all isSound = true := by decide
  rcases mem_stripRules.mp h with ⟨pattern, hmem, rfl⟩ | ⟨name, hname, rfl⟩ | ⟨intent, hmem⟩ | rfl
  · rw [prices_eq] at hmem
    rcases List.mem_map.mp hmem with ⟨shape, hshape, rfl⟩
    have hone : (fun _ => ()) <$> shape.2 <$> readParts shape.1 = readsOne [shape.1] := by
      rw [Functor.map_map]
      funext prev text
      exact (Option.or_none).symm
    rw [hone]
    apply isRule_readsOne
    rw [List.all_cons, hshapes shape hshape]
    rfl
  · rw [Name.pattern_eq]
    apply isRule_readsOne
    apply hnames
    rcases hname with hname | hname
    · exact List.mem_append_left _ (hbrand name hname)
    · exact List.mem_append_right _ (hcategory name hname)
  · have hrule : rule ∈ sorts.map Prod.fst := List.mem_map_of_mem hmem
    rw [sorts_eq] at hrule
    rcases List.mem_map.mp hrule with ⟨shape, hshape, rfl⟩
    exact isRule_readsOne (hsorts shape hshape)
  · rw [filler_eq]
    exact isRule_readsOne (by decide)

/-!
## Stripping once more
-/

section Rules

variable {brand category : Option Name}

/-- A collapsed text is left as it is exactly if no rule is found in it. -/
theorem strippedOf_eq_self_iff
    (hrules : forall rule : Pattern Unit, rule ∈ stripRules brand category -> IsRule rule)
    {text : List Char} (htext : collapse text = text) :
    strippedOf brand category text = text <-> FreeOfPhrases brand category text := by
  rw [strippedOf_eq, freeOfPhrases_iff]
  constructor
  · intro h rule hmem
    cases hfound : rule.search text with
    | none => rfl
    | some found =>
        have hshorter := length_foldl_blankAll_lt (fun rule h => (hrules rule h).shortens) hmem
          (show (rule.search text).isSome by rw [hfound]; rfl)
        have hcollapse := length_collapse_le
          ((stripRules brand category).foldl (fun text rule => rule.blankAll text) text)
        rw [h] at hcollapse
        omega
  · intro h
    rw [foldl_blankAll_eq_self h, htext]

/-!
## Phrases over gaps
-/

structure FitsAtGap (rule : Pattern Unit) (cells : List Cell) : Prop where
  exists_place : exists (front part back : List Cell) (hit : Hit Unit),
    cells = front ++ part ++ back ∧
      rule (Cells.chars front).getLast? (Cells.chars (part ++ back)) = some hit ∧
      hit.text = Cells.chars part ∧
      exists cell : Cell, cell.isGap = true ∧
        (front.getLast? = some cell ∨ cell ∈ part ∨ back.head? = some cell)

theorem fitsAtGap_of_search
    (hrules : forall rule : Pattern Unit, rule ∈ stripRules brand category -> IsRule rule)
    {rule : Pattern Unit} (hmem : rule ∈ stripRules brand category) {cells left : List Cell}
    (hleft : left = Cells.blankEach (stripRules brand category) cells)
    {found : Match Unit} (h : rule.search (Cells.chars left) = some found) :
    FitsAtGap rule left := by
  have hplace := foundAt_of_search (hrules rule hmem).shortens.covers h
  have hne : found.text ≠ [] := (hrules rule hmem).shortens.text_ne_nil hplace.fits
  rcases List.map_eq_append_iff.mp hplace.split with ⟨both, back, hcells, hboth, hback⟩
  rcases List.map_eq_append_iff.mp hboth with ⟨front, part, hsplit, hfront, hpart⟩
  rw [hsplit] at hcells
  have hfits : rule (Cells.chars front).getLast? (Cells.chars (part ++ back)) =
      some ⟨found.value, found.text, found.after⟩ := by
    have hchars : Cells.chars (part ++ back) = found.text ++ found.after := by
      rw [Cells.chars_append, Cells.chars, Cells.chars, hpart, hback]
    rw [hchars, Cells.chars, hfront]
    exact hplace.fits
  by_cases hgap : exists cell : Cell, cell.isGap = true ∧
      (front.getLast? = some cell ∨ cell ∈ part ∨ back.head? = some cell)
  · exact ⟨⟨front, part, back, _, hcells, hfits, hpart.symm, hgap⟩⟩
  · have hsolid : forall cell : Cell,
        front.getLast? = some cell ∨ cell ∈ part ∨ back.head? = some cell ->
          cell.isGap = false := by
      intro cell hcell
      cases hisGap : cell.isGap with
      | false => rfl
      | true => exact absurd ⟨cell, hisGap, hcell⟩ hgap
    have hwhole : Cells.Whole front.getLast? part back.head? :=
      ⟨fun cell h => hsolid cell (Or.inl h), fun cell h => hsolid cell (Or.inr (Or.inl h)),
        fun cell h => hsolid cell (Or.inr (Or.inr h))⟩
    have hpartNe : part ≠ [] := by
      rintro rfl
      exact hne hpart.symm
    rw [Cells.chars, List.getLast?_map] at hfits
    rw [hleft] at hcells
    exact absurd hpart.symm (Cells.not_covers_whole (fun rule h => (hrules rule h).shortens.covers)
      (fun rule h => (hrules rule h).lasts)
      (fun rule h => (hrules rule h).shortens.shows) hmem hcells hpartNe hwhole hfits)

theorem search_of_fitsAtGap {rule : Pattern Unit} {cells : List Cell} (h : FitsAtGap rule cells) :
    (rule.search (Cells.chars cells)).isSome := by
  rcases h.exists_place with ⟨front, part, back, hit, hcells, hhit, _, _⟩
  cases hfound : rule.search (Cells.chars cells) with
  | some found => rfl
  | none =>
      have hchars : Cells.chars cells = Cells.chars front ++ Cells.chars (part ++ back) := by
        rw [hcells, List.append_assoc, Cells.chars_append]
      have hnone := searchFrom_eq_none hfound hchars
      rw [Option.or_none, hhit] at hnone
      cases hnone

/-- What the passes leave is free of phrases exactly if no rule fits over a gap or beside one. -/
theorem freeOfPhrases_stripped_iff
    (hrules : forall rule : Pattern Unit, rule ∈ stripRules brand category -> IsRule rule)
    (text : List Char) :
    FreeOfPhrases brand category (strippedOf brand category text) <->
      forall rule : Pattern Unit, rule ∈ stripRules brand category ->
        ¬ FitsAtGap rule (Cells.blankEach (stripRules brand category) (Cells.ofText text)) := by
  have hchars : (stripRules brand category).foldl (fun text rule => rule.blankAll text) text =
      Cells.chars (Cells.blankEach (stripRules brand category) (Cells.ofText text)) := by
    rw [Cells.chars_blankEach, Cells.chars_ofText]
  have hsearch : forall rule : Pattern Unit, rule ∈ stripRules brand category ->
      (rule.search (strippedOf brand category text) = none <-> rule.search (Cells.chars
        (Cells.blankEach (stripRules brand category) (Cells.ofText text))) = none) := by
    intro rule hmem
    rw [strippedOf_eq, hchars, ← Option.not_isSome_iff_eq_none, ← Option.not_isSome_iff_eq_none,
      search_collapse (hrules rule hmem).opensSolid (hrules rule hmem).agrees]
  rw [freeOfPhrases_iff]
  constructor
  · intro h rule hmem hfits
    have hfound := search_of_fitsAtGap hfits
    rw [(hsearch rule hmem).mp (h rule hmem)] at hfound
    cases hfound
  · intro h rule hmem
    rw [hsearch rule hmem]
    cases hfound : rule.search (Cells.chars (Cells.blankEach (stripRules brand category)
        (Cells.ofText text))) with
    | none => rfl
    | some found => exact absurd (fitsAtGap_of_search hrules hmem rfl hfound) (h rule hmem)

end Rules

end Phrase

namespace Reading

def normalQuery (query : List Char) : List Char :=
  collapse (lower query)

def brandRule (query : List Char) : Option Phrase.Name :=
  (Phrase.name? Phrase.brands (normalQuery query)).map Prod.fst

def categoryRule (query : List Char) : Option Phrase.Name :=
  (Phrase.name? Phrase.categories (normalQuery query)).map Prod.fst

/-- What the passes over a query leave of it, with a gap for every part that they blanked. -/
def strippedCells (query : List Char) : List Cell :=
  Cells.blankEach (Phrase.stripRules (brandRule query) (categoryRule query))
    (Cells.ofText (normalQuery query))

theorem ofPhrases_residual (query : List Char) :
    (ofPhrases query).residual =
      Phrase.strippedOf (brandRule query) (categoryRule query) (normalQuery query) := by
  dsimp only [ofPhrases, brandRule, categoryRule, normalQuery]
  split
  · rename_i hempty
    rw [List.isEmpty_iff.mp hempty, Phrase.strippedOf_eq, eq_comm]
    have hnil : forall rules : List (Pattern Unit),
        rules.foldl (fun text rule => rule.blankAll text) [] = [] := fun rules =>
      List.length_eq_zero_iff.mp (Nat.le_zero.mp (length_foldl_blankAll_le rules []))
    rw [hnil]
    rfl
  · rfl

theorem isRule_of_found
    {query : List Char} {rule : Pattern Unit}
    (h : rule ∈ Phrase.stripRules (brandRule query) (categoryRule query)) :
    Phrase.IsRule rule := by
  have hfound : forall {names : List Phrase.Name} {text : List Char} {name : Phrase.Name},
      (Phrase.name? names text).map Prod.fst = some name -> name ∈ names := by
    intro names text name hname
    unfold Phrase.name? at hname
    rw [Option.map_map, Option.map_eq_some_iff] at hname
    rcases hname with ⟨⟨entry, found⟩, hfirst, rfl⟩
    exact (Phrase.firstFound_eq_some hfirst).1
  exact Phrase.isRule_of_mem_stripRules (fun _ => hfound) (fun _ => hfound) h

/-- The text left of a query is free of the phrases that were looked for in it exactly if stripping
it once more changes nothing, and exactly if no rule fits over a gap or beside one. -/
theorem residual_freeOfPhrases_iff (query : List Char) :
    (Phrase.FreeOfPhrases (brandRule query) (categoryRule query) (ofPhrases query).residual <->
        Phrase.strippedOf (brandRule query) (categoryRule query) (ofPhrases query).residual =
          (ofPhrases query).residual) ∧
      (Phrase.FreeOfPhrases (brandRule query) (categoryRule query) (ofPhrases query).residual <->
        forall rule : Pattern Unit,
          rule ∈ Phrase.stripRules (brandRule query) (categoryRule query) ->
            ¬ Phrase.FitsAtGap rule (strippedCells query)) := by
  constructor
  · apply (Phrase.strippedOf_eq_self_iff (fun _ => isRule_of_found) _).symm
    rw [ofPhrases_residual, Phrase.strippedOf_eq, collapse_collapse]
  · rw [ofPhrases_residual]
    exact Phrase.freeOfPhrases_stripped_iff (fun _ => isRule_of_found) (normalQuery query)

/-- The filler word is stripped after the sort phrases and leaves one behind. -/
theorem not_residual_freeOfPhrases_lowestInPrice :
    ¬ Phrase.FreeOfPhrases (brandRule "desk lamp lowest in price".toList)
      (categoryRule "desk lamp lowest in price".toList)
      (ofPhrases "desk lamp lowest in price".toList).residual := by
  intro h
  have hresidual : (ofPhrases "desk lamp lowest in price".toList).residual =
      "desk lamp lowest price".toList := by decide +kernel
  have hfirst : ((anyOf [boundedWords ["cheapest"], boundedWords ["lowest", "price"],
      Phrase.wordThenDollar "under"]).search "desk lamp lowest price".toList).isSome := by
    decide +kernel
  have hnone := h.sort _ .priceLow List.mem_cons_self
  rw [hresidual] at hnone
  rw [hnone] at hfirst
  cases hfirst

end Reading

end CatalogSearch
