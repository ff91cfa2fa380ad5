import CatalogSearch.Proofs.Text.Cuts

/-!
# Cuts in place

A part that was found at a place is cut at its first occurrence, which may be another place,
and other cuts may come before.  A cut is in place if it takes what is left of the part where
it was found, and nothing else.
-/

namespace CatalogSearch

open Text

namespace Pieces

def InPlace (base pieces : List Piece) (span : Span) : Prop :=
  forall place : Nat, place ∈ places base ->
    (place ∈ keptPlaces (occurrence span.text pieces) <->
      place ∈ places (segment span base) ∧ place ∈ keptPlaces pieces)

def EachInPlace (base : List Piece) : List Piece -> List Span -> Prop
  | _, [] => True
  | pieces, span :: spans =>
      InPlace base pieces span ∧ EachInPlace base (cutFirst span.text pieces) spans

def TakesExactly (base pieces : List Piece) (spans : List Span) : Prop :=
  forall place : Nat, place ∈ cutPlaces (cutAll pieces spans) <->
    place ∈ cutPlaces pieces ∨ place ∈ spans.flatMap fun span => places (segment span base)

instance (base pieces : List Piece) (span : Span) : Decidable (InPlace base pieces span) :=
  inferInstanceAs (Decidable (forall place : Nat, place ∈ places base -> _))

instance decidableEachInPlace (base : List Piece) :
    forall (pieces : List Piece) (spans : List Span), Decidable (EachInPlace base pieces spans)
  | _, [] => inferInstanceAs (Decidable True)
  | pieces, span :: spans =>
      have : Decidable (EachInPlace base (cutFirst span.text pieces) spans) :=
        decidableEachInPlace base _ spans
      inferInstanceAs (Decidable (_ ∧ _))

/-!
## Places of a piece
-/

theorem not_mem_places_later
    {first piece : Piece} {rest later other : List Piece} {place : Nat}
    (hnodup : (places (first :: rest)).Nodup) (hrest : rest = later ++ piece :: other)
    (h : place ∈ first.places) :
    place ∉ piece.places := by
  intro hpiece
  rw [places_cons, List.nodup_append] at hnodup
  have hlater : place ∈ places rest := by
    rw [hrest]
    exact List.mem_flatMap.mpr ⟨piece, List.mem_append_right _ List.mem_cons_self, hpiece⟩
  exact hnodup.2.2 place h place hlater rfl

theorem split_unique
    {pieces front back front' back' : List Piece} {piece piece' : Piece} {place : Nat}
    (hnodup : (places pieces).Nodup) (h : pieces = front ++ piece :: back)
    (h' : pieces = front' ++ piece' :: back') (hmem : place ∈ piece.places)
    (hmem' : place ∈ piece'.places) :
    front = front' ∧ piece = piece' ∧ back = back' := by
  induction front generalizing pieces front' with
  | nil =>
      cases front' with
      | nil =>
          rw [h, List.nil_append, List.nil_append] at h'
          injection h' with hpiece hback
          exact ⟨rfl, hpiece, hback⟩
      | cons first front' =>
          rw [h, List.nil_append, List.cons_append] at h'
          injection h' with hpiece hback
          rw [h] at hnodup
          exact absurd hmem' (not_mem_places_later hnodup hback hmem)
  | cons first front ih =>
      cases front' with
      | nil =>
          rw [h', List.nil_append, List.cons_append] at h
          injection h with hpiece hback
          rw [h'] at hnodup
          exact absurd hmem (not_mem_places_later hnodup hback hmem')
      | cons first' front' =>
          rw [h, List.cons_append, List.cons_append] at h'
          injection h' with hfirst hrest
          have hnodupRest : (places (front ++ piece :: back)).Nodup := by
            rw [h, List.cons_append, places_cons, List.nodup_append] at hnodup
            exact hnodup.2.1
          rcases ih hnodupRest rfl hrest with ⟨hfront, hpiece, hback⟩
          rw [hfirst, hfront]
          exact ⟨rfl, hpiece, hback⟩

theorem mem_places_split
    {pieces : List Piece} {place : Nat} (h : place ∈ places pieces) :
    exists front back : List Piece, exists piece : Piece,
      pieces = front ++ piece :: back ∧ place ∈ piece.places := by
  rcases List.mem_flatMap.mp h with ⟨piece, hmem, hplace⟩
  rcases List.append_of_mem hmem with ⟨front, back, hsplit⟩
  exact ⟨front, back, piece, hsplit, hplace⟩

theorem kept_unique
    {pieces : List Piece} {c d : Char} {place : Nat} (hnodup : (places pieces).Nodup)
    (hc : .kept c place ∈ pieces) (hd : .kept d place ∈ pieces) :
    c = d := by
  rcases List.append_of_mem hc with ⟨front, back, hsplit⟩
  rcases List.append_of_mem hd with ⟨front', back', hsplit'⟩
  rcases split_unique hnodup hsplit hsplit' (List.mem_singleton.mpr rfl)
    (List.mem_singleton.mpr rfl) with ⟨_, hpiece, _⟩
  injection hpiece

theorem chars_eq_append
    {pieces : List Piece} {front back : List Char} (h : chars pieces = front ++ back) :
    exists before after : List Piece, pieces = before ++ after ∧ chars before = front ∧
      chars after = back :=
  List.map_eq_append_iff.mp h

theorem chars_eq_cons
    {pieces : List Piece} {c : Char} {rest : List Char} (h : chars pieces = c :: rest) :
    exists piece : Piece, exists after : List Piece, pieces = piece :: after ∧ piece.char = c ∧
      chars after = rest :=
  List.map_eq_cons_iff.mp h

theorem eq_kept_of_char
    {piece : Piece} {c : Char} (h : piece.char = c) (hc : c ≠ ' ') :
    exists place : Nat, piece = .kept c place := by
  cases piece with
  | kept d place =>
      have hd : d = c := h
      rw [hd]
      exact ⟨place, rfl⟩
  | gap removed => exact absurd h.symm hc

theorem marked_split
    {pieces : List Piece} {lead rest : List Char} {mark : Char} (hblank : mark ≠ ' ')
    (h : chars pieces = lead ++ mark :: rest) :
    exists before after : List Piece, exists place : Nat,
      pieces = before ++ .kept mark place :: after ∧ chars before = lead ∧ chars after = rest := by
  rcases chars_eq_append h with ⟨before, others, hpieces, hbefore, hothers⟩
  rcases chars_eq_cons hothers with ⟨piece, after, hsplit, hchar, hafter⟩
  rcases eq_kept_of_char hchar hblank with ⟨place, hpiece⟩
  rw [hsplit, hpiece] at hpieces
  exact ⟨before, after, place, hpieces, hbefore, hafter⟩

/-!
## Where a part was found
-/

theorem segment_of_chars
    {pieces : List Piece} {before text after : List Char}
    (h : chars pieces = before ++ text ++ after) :
    chars (pieces.take before.length) = before ∧
      chars (segment ⟨before.length, text⟩ pieces) = text ∧
      chars (pieces.drop (before.length + text.length)) = after := by
  unfold segment chars
  unfold chars at h
  rw [List.map_take, List.map_take, List.map_drop, List.map_drop, h]
  refine ⟨?_, ?_, ?_⟩
  · rw [List.append_assoc, List.take_left]
  · rw [List.append_assoc, List.drop_left, List.take_left]
  · rw [← List.length_append, List.drop_left]

theorem mem_places_of_segment
    {span : Span} {pieces : List Piece} {place : Nat} (h : place ∈ places (segment span pieces)) :
    place ∈ places pieces := by
  rw [segment_split span pieces, places_append, places_append]
  exact List.mem_append_left _ (List.mem_append_right _ h)

theorem segment_split_at
    {base left right : List Piece} {span : Span} {piece : Piece}
    (h : segment span base = left ++ piece :: right) :
    base = (base.take span.start ++ left) ++
      piece :: (right ++ base.drop (span.start + span.text.length)) := by
  have hsplit := segment_split span base
  rw [h] at hsplit
  simpa only [List.append_assoc, List.cons_append] using hsplit

theorem mem_segment_of_kept
    {span : Span} {pieces : List Piece} {c : Char} {place : Nat}
    (hnodup : (places pieces).Nodup) (hkept : .kept c place ∈ pieces)
    (h : place ∈ places (segment span pieces)) :
    .kept c place ∈ segment span pieces := by
  rcases mem_places_split h with ⟨front, back, piece, hsegment, hplace⟩
  rcases List.append_of_mem hkept with ⟨front', back', hsplit⟩
  rcases split_unique hnodup (segment_split_at hsegment) hsplit hplace
    (List.mem_singleton.mpr rfl) with ⟨_, hpiece, _⟩
  rw [hsegment, ← hpiece]
  exact List.mem_append_right _ List.mem_cons_self

theorem mem_keptPlaces_part
    {front part back : List Piece} (hnodup : (places (front ++ part ++ back)).Nodup)
    (place : Nat) :
    place ∈ keptPlaces part <->
      place ∈ places part ∧ place ∈ keptPlaces (front ++ part ++ back) := by
  constructor
  · intro hmem
    refine ⟨(mem_places part place).mpr (Or.inl hmem), ?_⟩
    rw [keptPlaces_append, keptPlaces_append]
    exact List.mem_append_left _ (List.mem_append_right _ hmem)
  · intro hboth
    rcases (mem_places part place).mp hboth.1 with hkept | hcut
    · exact hkept
    · have hwhole : place ∈ cutPlaces (front ++ part ++ back) := by
        rw [cutPlaces_append, cutPlaces_append]
        exact List.mem_append_left _ (List.mem_append_right _ hcut)
      exact absurd hwhole (not_mem_cutPlaces hnodup hboth.2)

theorem firstAt_of_segment
    {span : Span} {pieces : List Piece} (hne : span.text ≠ [])
    (hspan : chars (segment span pieces) = span.text) :
    exists front found back : List Piece, FirstAt span.text pieces front found back := by
  rcases cutFirst_cases hne pieces with habsent | hfirst
  · exfalso
    apply habsent.not_infix
    refine ⟨chars (pieces.take span.start),
      chars (pieces.drop (span.start + span.text.length)), ?_⟩
    have hwhole := congrArg chars (segment_split span pieces)
    rw [chars_append, chars_append, hspan] at hwhole
    exact hwhole.symm
  · exact hfirst

/-!
## Cuts in place take the spans
-/

section Cut

variable {text : List Char} {base pieces : List Piece} {span : Span}

theorem Describes.mem_places_iff
    {other : List Piece} (h : Describes 0 text pieces) (hother : Describes 0 text other)
    (place : Nat) :
    place ∈ places pieces <-> place ∈ places other := by
  rw [h.places_eq, hother.places_eq]

theorem mem_cutPlaces_cutFirst
    (hne : span.text ≠ []) (place : Nat) :
    place ∈ cutPlaces (cutFirst span.text pieces) <->
      place ∈ cutPlaces pieces ∨ place ∈ keptPlaces (occurrence span.text pieces) := by
  rcases cutFirst_cases hne pieces with habsent | ⟨front, found, back, hfirst⟩
  · rw [habsent.cut, habsent.occurrence]
    constructor
    · exact Or.inl
    · intro h
      rcases h with hcut | hkept
      · exact hcut
      · cases hkept
  · rw [hfirst.occurrence]
    exact mem_cutPlaces_cut hfirst place

/-- A cut is in place exactly if it adds the span to what was cut. -/
theorem inPlace_iff
    (hbase : Describes 0 text base) (hpieces : Describes 0 text pieces) (hne : span.text ≠ []) :
    InPlace base pieces span <->
      forall place : Nat, place ∈ cutPlaces (cutFirst span.text pieces) <->
        place ∈ cutPlaces pieces ∨ place ∈ places (segment span base) := by
  have hsame : forall place : Nat, place ∈ places base <->
      place ∈ keptPlaces pieces ∨ place ∈ cutPlaces pieces := by
    intro place
    rw [hbase.mem_places_iff hpieces, mem_places]
  have hapart : forall place : Nat, place ∈ keptPlaces pieces -> place ∉ cutPlaces pieces :=
    fun place => not_mem_cutPlaces hpieces.nodup
  have hsegment : forall place : Nat, place ∈ places (segment span base) ->
      place ∈ places base := fun place => mem_places_of_segment
  have hfresh : forall place : Nat, place ∈ keptPlaces (occurrence span.text pieces) ->
      place ∈ keptPlaces pieces := by
    intro place hmem
    rcases cutFirst_cases hne pieces with habsent | ⟨front, found, back, hfirst⟩
    · rw [habsent.occurrence] at hmem
      cases hmem
    · rw [hfirst.occurrence] at hmem
      rw [hfirst.split, keptPlaces_append, keptPlaces_append]
      exact List.mem_append_left _ (List.mem_append_right _ hmem)
  constructor
  · intro h place
    rw [mem_cutPlaces_cutFirst hne]
    constructor
    · intro hcut
      rcases hcut with hcut | hkept
      · exact Or.inl hcut
      · have hin := (hsame place).mpr (Or.inl (hfresh place hkept))
        exact Or.inr ((h place hin).mp hkept).1
    · intro hcut
      rcases hcut with hcut | hspan
      · exact Or.inl hcut
      · have hin := hsegment place hspan
        rcases (hsame place).mp hin with hkept | hcut
        · exact Or.inr ((h place hin).mpr ⟨hspan, hkept⟩)
        · exact Or.inl hcut
  · intro h place _
    have hcut := h place
    rw [mem_cutPlaces_cutFirst hne] at hcut
    constructor
    · intro hkept
      have hnot := hapart place (hfresh place hkept)
      rcases hcut.mp (Or.inr hkept) with hbefore | hspan
      · exact absurd hbefore hnot
      · exact ⟨hspan, hfresh place hkept⟩
    · intro hboth
      rcases hcut.mpr (Or.inr hboth.1) with hbefore | hkept
      · exact absurd hbefore (hapart place hboth.2)
      · exact hkept

theorem FirstAt.inPlace
    {front back : List Piece} (hbase : Describes 0 text base)
    (h : FirstAt span.text base front (segment span base) back) :
    InPlace base base span := by
  intro place _
  rw [h.occurrence]
  have hnodup := hbase.nodup
  rw [h.split] at hnodup
  have hpart := mem_keptPlaces_part hnodup place
  rw [← h.split] at hpart
  exact hpart

end Cut

/-- Cuts in place take their spans and nothing else. -/
theorem EachInPlace.takesExactly
    {text : List Char} {base pieces : List Piece} {spans : List Span}
    (hbase : Describes 0 text base) (hpieces : Describes 0 text pieces)
    (hne : forall span : Span, span ∈ spans -> span.text ≠ [])
    (h : EachInPlace base pieces spans) :
    TakesExactly base pieces spans := by
  intro place
  induction spans generalizing pieces with
  | nil =>
      rw [List.flatMap_nil]
      constructor
      · exact Or.inl
      · intro hmem
        rcases hmem with hcut | hnone
        · exact hcut
        · cases hnone
  | cons span spans ih =>
      have hspan := hne span List.mem_cons_self
      have hrest := fun other hmem => hne other (List.mem_cons_of_mem span hmem)
      have hstep := (inPlace_iff hbase hpieces hspan).mp h.1 place
      have hcuts : cutAll pieces (span :: spans) = cutAll (cutFirst span.text pieces) spans := rfl
      rw [hcuts, ih (hpieces.cutFirst hspan) hrest h.2, hstep, List.flatMap_cons, List.mem_append,
        or_assoc]

theorem TakesExactly.mem_of_absent
    {base pieces : List Piece} {span : Span} {spans : List Span} {place : Nat}
    (h : TakesExactly base pieces (span :: spans)) (habsent : Absent span.text pieces)
    (hplace : place ∈ places (segment span base)) :
    place ∈ cutPlaces (cutAll pieces spans) := by
  have hall := (h place).mpr (Or.inr (List.mem_flatMap.mpr ⟨span, List.mem_cons_self, hplace⟩))
  have hcuts : cutAll pieces (span :: spans) = cutAll (cutFirst span.text pieces) spans := rfl
  rw [hcuts, habsent.cut] at hall
  exact hall

theorem TakesExactly.after
    {text : List Char} {base pieces : List Piece} {span : Span} {spans : List Span}
    (hbase : Describes 0 text base) (hpieces : Describes 0 text pieces) (hne : span.text ≠ [])
    (h : TakesExactly base pieces (span :: spans)) (hin : InPlace base pieces span) :
    TakesExactly base (cutFirst span.text pieces) spans := by
  intro place
  have hplace := h place
  rw [List.flatMap_cons, List.mem_append, ← or_assoc] at hplace
  rw [(inPlace_iff hbase hpieces hne).mp hin place]
  exact hplace

/-!
## The first occurrence of a marked part
-/

theorem FirstAt.segment_of_start
    {pieces front found back : List Piece} {span : Span}
    (h : FirstAt span.text pieces front found back)
    (hspan : chars (segment span pieces) = span.text)
    (hstart : front.length = (pieces.take span.start).length) :
    front = pieces.take span.start ∧ found = segment span pieces ∧
      back = pieces.drop (span.start + span.text.length) := by
  have hwhole : front ++ (found ++ back) = pieces.take span.start ++
      (segment span pieces ++ pieces.drop (span.start + span.text.length)) := by
    rw [← List.append_assoc, ← List.append_assoc, ← h.split]
    exact segment_split span pieces
  have hlength : found.length = (segment span pieces).length := by
    rw [← length_chars found, h.text, ← length_chars (segment span pieces), hspan]
  have hends := List.append_inj hwhole hstart
  have hparts := List.append_inj hends.2 hlength
  exact ⟨hends.1, hparts.1, hparts.2⟩

/-- Where a mark has no other mark before it, no text around that mark begins shorter. -/
theorem length_le_of_mark
    {lead rest lead' rest' : List Char} {mark : Char} (hlead : mark ∉ lead)
    (h : lead' ++ mark :: rest' = lead ++ mark :: rest) :
    lead.length ≤ lead'.length := by
  rcases List.append_eq_append_iff.mp h with ⟨more, hmore, hrest⟩ | ⟨more, hmore, _⟩
  · cases more with
    | nil => exact Nat.le_of_eq (by rw [hmore, List.append_nil])
    | cons c more =>
        rw [List.cons_append] at hrest
        injection hrest with hc _
        exfalso
        apply hlead
        rw [hmore, hc]
        exact List.mem_append_right _ List.mem_cons_self
  · rw [hmore, List.length_append]
    exact Nat.le_add_right _ _

/-- If the first mark of an occurrence lies in the span, then the first occurrence is the span. -/
theorem FirstAt.at_segment
    {pieces front found back : List Piece} {span : Span} {lead rest : List Char} {mark : Char}
    (hnodup : (places pieces).Nodup) (h : FirstAt span.text pieces front found back)
    (hspan : chars (segment span pieces) = span.text) (htext : span.text = lead ++ mark :: rest)
    (hblank : mark ≠ ' ') (hlead : mark ∉ lead)
    (hin : forall place : Nat, Piece.kept mark place ∈ found ->
      place ∈ places (segment span pieces)) :
    FirstAt span.text pieces (pieces.take span.start) (segment span pieces)
      (pieces.drop (span.start + span.text.length)) := by
  rcases marked_split hblank (h.text.trans htext) with
    ⟨ahead, behind, place, hfound, hahead, _⟩
  have hplace : place ∈ places (segment span pieces) := by
    apply hin
    rw [hfound]
    exact List.mem_append_right _ List.mem_cons_self
  rcases mem_places_split hplace with ⟨ahead', behind', piece, hsegment, hplace'⟩
  have hsplit : pieces = (front ++ ahead) ++ .kept mark place :: (behind ++ back) := by
    rw [h.split, hfound]
    simp only [List.append_assoc, List.cons_append]
  rcases split_unique hnodup hsplit (segment_split_at hsegment) (List.mem_singleton.mpr rfl)
    hplace' with ⟨hfront, hpiece, _⟩
  have hmark : chars ahead' ++ mark :: chars behind' = lead ++ mark :: rest := by
    rw [← htext, ← hspan, hsegment, ← hpiece, chars_append]
    rfl
  have hlonger := length_le_of_mark hlead hmark
  rw [length_chars] at hlonger
  have hlengths := congrArg List.length hfront
  rw [List.length_append, List.length_append, ← length_chars ahead, hahead] at hlengths
  have hle := h.first _ _ _ (segment_split span pieces) hspan
  have hstart : front.length = (pieces.take span.start).length := by omega
  rcases h.segment_of_start hspan hstart with ⟨hfrontEq, hfoundEq, hbackEq⟩
  rw [hfrontEq, hfoundEq, hbackEq] at h
  exact h

theorem Describes.cutAll
    {start : Nat} {text : List Char} {pieces : List Piece} {spans : List Span}
    (h : Describes start text pieces)
    (hne : forall span : Span, span ∈ spans -> span.text ≠ []) :
    Describes start text (cutAll pieces spans) := by
  induction spans generalizing pieces with
  | nil => exact h
  | cons span spans ih =>
      exact ih (h.cutFirst (hne span List.mem_cons_self))
        fun other hmem => hne other (List.mem_cons_of_mem span hmem)

theorem mem_cutPlaces_cutAll
    {pieces : List Piece} {spans : List Span} {place : Nat}
    (hne : forall span : Span, span ∈ spans -> span.text ≠ [])
    (h : place ∈ cutPlaces pieces) :
    place ∈ cutPlaces (cutAll pieces spans) := by
  induction spans generalizing pieces with
  | nil => exact h
  | cons span spans ih =>
      apply ih fun other hmem => hne other (List.mem_cons_of_mem span hmem)
      exact (mem_cutPlaces_cutFirst (hne span List.mem_cons_self) place).mpr (Or.inl h)

theorem kept_mem_of_mem_cutFirst
    {part : List Char} {pieces : List Piece} {c : Char} {place : Nat} (hne : part ≠ [])
    (h : .kept c place ∈ cutFirst part pieces) :
    .kept c place ∈ pieces := by
  rcases cutFirst_cases hne pieces with habsent | ⟨front, found, back, hfirst⟩
  · rw [habsent.cut] at h
    exact h
  · rw [hfirst.cut] at h
    rw [hfirst.split]
    rcases List.mem_append.mp h with hfront | hrest
    · exact List.mem_append_left _ (List.mem_append_left _ hfront)
    · cases hrest with
      | tail _ hback => exact List.mem_append_right _ hback

theorem TakesExactly.mem_spans
    {text : List Char} {base pieces front found back : List Piece} {span : Span}
    {spans : List Span} {c : Char} {place : Nat} (hpieces : Describes 0 text pieces)
    (hne : forall other : Span, other ∈ spans -> other.text ≠ [])
    (h : TakesExactly base pieces (span :: spans))
    (hfirst : FirstAt span.text pieces front found back) (hkept : .kept c place ∈ found) :
    place ∈ places (segment span base) ∨
      exists other : Span, other ∈ spans ∧ place ∈ places (segment other base) := by
  have hbefore : Piece.kept c place ∈ pieces := by
    rw [hfirst.split]
    exact List.mem_append_left _ (List.mem_append_right _ hkept)
  have hcut : place ∈ cutPlaces (cutAll pieces (span :: spans)) := by
    apply mem_cutPlaces_cutAll hne
    apply (mem_cutPlaces_cut hfirst place).mpr
    exact Or.inr (mem_keptPlaces_of_mem hkept)
  rcases (h place).mp hcut with hcutBefore | hspans
  · exact absurd hcutBefore (not_mem_cutPlaces hpieces.nodup (mem_keptPlaces_of_mem hbefore))
  · rw [List.flatMap_cons, List.mem_append] at hspans
    rcases hspans with hthis | hothers
    · exact Or.inl hthis
    · exact Or.inr (List.mem_flatMap.mp hothers)

/-- If the cuts stay within the spans, then the first of them is made at its span, provided that
the span has a mark that no other span has. -/
theorem firstAt_of_mark
    {text : List Char} {base : List Piece} {span : Span} {spans : List Span}
    {lead rest : List Char} {mark : Char} (hbase : Describes 0 text base)
    (hspan : chars (segment span base) = span.text) (htext : span.text = lead ++ mark :: rest)
    (hblank : mark ≠ ' ') (hlead : mark ∉ lead)
    (hne : forall other : Span, other ∈ spans -> other.text ≠ [])
    (hother : forall other : Span, other ∈ spans -> mark ∉ chars (segment other base))
    (h : TakesExactly base base (span :: spans)) :
    FirstAt span.text base (base.take span.start) (segment span base)
      (base.drop (span.start + span.text.length)) := by
  have hspanNe : span.text ≠ [] := by
    rw [htext]
    exact List.append_ne_nil_of_right_ne_nil lead (List.cons_ne_nil mark rest)
  rcases firstAt_of_segment hspanNe hspan with ⟨front, found, back, hfirst⟩
  have hin : forall place : Nat, Piece.kept mark place ∈ found ->
      place ∈ places (segment span base) := by
    intro place hfound
    rcases h.mem_spans hbase hne hfirst hfound with hthis | ⟨other, hmem, hplace⟩
    · exact hthis
    · have hkept : Piece.kept mark place ∈ base := by
        rw [hfirst.split]
        exact List.mem_append_left _ (List.mem_append_right _ hfound)
      have hshown := mem_segment_of_kept hbase.nodup hkept hplace
      exact absurd (List.mem_map_of_mem hshown) (hother other hmem)
  exact hfirst.at_segment hbase.nodup hspan htext hblank hlead hin

theorem TakesExactly.last
    {text : List Char} {base pieces : List Piece} {span : Option Span}
    (hbase : Describes 0 text base) (hpieces : Describes 0 text pieces)
    (hne : forall one : Span, one ∈ span -> one.text ≠ [])
    (h : TakesExactly base pieces span.toList) :
    EachInPlace base pieces span.toList := by
  cases span with
  | none => trivial
  | some span =>
      refine ⟨(inPlace_iff hbase hpieces (hne span rfl)).mpr ?_, trivial⟩
      intro place
      have hplace := h place
      rw [Option.toList_some, List.flatMap_singleton] at hplace
      exact hplace

end Pieces

end CatalogSearch
