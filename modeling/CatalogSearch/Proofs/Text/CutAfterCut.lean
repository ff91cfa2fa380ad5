import CatalogSearch.Proofs.Text.CutsInPlace
import Mathlib.Data.List.Basic

/-!
# A cut after another cut

After a cut, a part that was found in the whole text may overlap the gap.  If it has one mark,
and the mark is cut where it was found, then the cut is in place: it can reach over the gap by
one blank only.
-/

namespace CatalogSearch

open Text

namespace Pieces

theorem marked_split_at
    {pieces : List Piece} {lead rest : List Char} {mark : Char} {place : Nat}
    (hlead : mark ∉ lead) (hrest : mark ∉ rest) (h : chars pieces = lead ++ mark :: rest)
    (hmem : .kept mark place ∈ pieces) :
    exists before after : List Piece,
      pieces = before ++ .kept mark place :: after ∧ chars before = lead ∧ chars after = rest := by
  rcases List.append_of_mem hmem with ⟨before, after, hpieces⟩
  rw [hpieces, chars_append] at h
  have hparts := (List.append_cons_inj_of_notMem hlead hrest).mp h.symm
  exact ⟨before, after, hpieces, hparts.1.symm, hparts.2.2.symm⟩

/-!
## What stands around the mark

The mark stands before the gap or behind it.  The other side of the mark is untouched, and on
the side of the gap the occurrence agrees with the span up to the gap.
-/

/-- Before a gap two beginnings agree, unless one of them has what was taken. -/
theorem beginnings_agree
    {between taken behind right back right' back' : List Piece} {gap head : Piece}
    {others : List Piece} (h : right ++ back = between ++ gap :: behind)
    (h' : between ++ (taken ++ behind) = right' ++ back') (hlength : right.length = right'.length)
    (htaken : taken = head :: others) (hhead : head ∉ right') :
    right = right' := by
  rcases List.append_eq_append_iff.mp h' with ⟨more, hright, hmore⟩ | ⟨more, hbetween, _⟩
  · cases more with
    | nil =>
        rw [List.append_nil] at hright
        rw [hright] at hlength ⊢
        exact (List.append_inj h hlength).1
    | cons piece more =>
        rw [htaken, List.cons_append, List.cons_append] at hmore
        injection hmore with hpiece _
        exfalso
        apply hhead
        rw [hright, hpiece]
        exact List.mem_append_right _ List.mem_cons_self
  · rw [hbetween, List.append_assoc] at h
    exact (List.append_inj h hlength).1

structure ReachesOver (ahead taken between front front' left left' : List Piece) (gap : Piece) :
    Prop where
  reaches : exists reach : List Piece, exists last : Piece, exists tail : List Piece,
    ahead = front ++ reach ∧ left = reach ++ gap :: between ∧
      left' = last :: tail ++ between ∧ last :: tail <:+ taken
  before : ahead <+: front'

/-- Behind a gap two endings agree, or they reach over the gap and what was taken. -/
theorem endings_agree
    {ahead taken between front left front' left' : List Piece} {gap head : Piece}
    {others : List Piece} (h : front ++ left = ahead ++ gap :: between)
    (h' : ahead ++ (taken ++ between) = front' ++ left') (hlength : left.length = left'.length)
    (htaken : taken = head :: others) (hhead : head ∉ left') :
    left = left' ∨ ReachesOver ahead taken between front front' left left' gap := by
  rcases List.append_eq_append_iff.mp h' with ⟨more, hfront, hmore⟩ | ⟨more, _, hleft⟩
  · rcases List.append_eq_append_iff.mp hmore with
      ⟨shared, _, hbetween⟩ | ⟨shared, htakenSplit, hleft⟩
    · left
      have hends : front ++ left = (ahead ++ gap :: shared) ++ left' := by
        rw [h, hbetween, List.append_assoc, List.cons_append]
      exact (List.append_inj' hends hlength).2
    · cases shared with
      | nil =>
          left
          rw [List.nil_append] at hleft
          rw [hleft] at hlength ⊢
          have hends : front ++ left = (ahead ++ [gap]) ++ between := by
            rw [h, List.append_assoc, List.singleton_append]
          exact (List.append_inj' hends hlength).2
      | cons last tail =>
          right
          have hsuffix : last :: tail <:+ taken := ⟨more, htakenSplit.symm⟩
          have hprefix : ahead <+: front' := ⟨more, hfront.symm⟩
          rcases List.append_eq_append_iff.mp h with ⟨reach, hahead, hleft'⟩ | ⟨reach, _, hgap⟩
          · exact ⟨⟨reach, last, tail, hahead, hleft', hleft, hsuffix⟩, hprefix⟩
          · have hlengths := congrArg List.length hgap
            rw [List.length_append, List.length_cons, hlength, hleft, List.length_append,
              List.length_cons] at hlengths
            have hnil : reach = [] := List.length_eq_zero_iff.mp (by omega)
            rename_i hfrontSplit
            rw [hnil, List.append_nil] at hfrontSplit
            rw [hnil, List.nil_append] at hgap
            refine ⟨⟨[], last, tail, ?_, ?_, hleft, hsuffix⟩, hprefix⟩
            · rw [hfrontSplit, List.append_nil]
            · rw [← hgap, List.nil_append]
  · exfalso
    apply hhead
    rw [hleft, htaken]
    exact List.mem_append_right _ (List.mem_append_left _ List.mem_cons_self)

theorem sides_agree_before_gap
    {base front left between taken behind right back before left' right' after : List Piece}
    {gap head : Piece} {others : List Piece} {mark : Char} {place : Nat}
    (hnodup : (places base).Nodup)
    (hsplit : base = (front ++ left) ++ .kept mark place :: (between ++ (taken ++ behind)))
    (hspan : base = (before ++ left') ++ .kept mark place :: (right' ++ after))
    (hgap : right ++ back = between ++ gap :: behind) (hleft : left.length = left'.length)
    (hright : right.length = right'.length) (htaken : taken = head :: others)
    (hhead : head ∉ right') :
    left = left' ∧ right = right' := by
  rcases split_unique hnodup hsplit hspan (List.mem_singleton.mpr rfl)
    (List.mem_singleton.mpr rfl) with ⟨hfronts, _, hbacks⟩
  exact ⟨(List.append_inj' hfronts hleft).2, beginnings_agree hgap hbacks hright htaken hhead⟩

/-- Of two occurrences around one mark that stands behind the gap, the endings are the same, and
the beginnings are the same or reach over the gap and what was taken. -/
theorem sides_agree_behind_gap
    {base ahead taken between front left right back before left' right' after : List Piece}
    {gap head : Piece} {others : List Piece} {mark : Char} {place : Nat}
    (hnodup : (places base).Nodup)
    (hsplit : base = (ahead ++ (taken ++ between)) ++ .kept mark place :: (right ++ back))
    (hspan : base = (before ++ left') ++ .kept mark place :: (right' ++ after))
    (hgap : front ++ left = ahead ++ gap :: between) (hleft : left.length = left'.length)
    (hright : right.length = right'.length) (htaken : taken = head :: others)
    (hhead : head ∉ left') :
    right = right' ∧
      (left = left' ∨ ReachesOver ahead taken between front before left left' gap) := by
  rcases split_unique hnodup hsplit hspan (List.mem_singleton.mpr rfl)
    (List.mem_singleton.mpr rfl) with ⟨hfronts, _, hbacks⟩
  exact ⟨(List.append_inj hbacks hright).1, endings_agree hgap hfronts hleft htaken hhead⟩

theorem not_mem_places_segment
    {base : List Piece} {span : Span} {piece : Piece} {place : Nat}
    (hnodup : (places base).Nodup) (hpiece : piece ∈ base.take span.start)
    (hplace : place ∈ piece.places) :
    place ∉ places (segment span base) := by
  intro hinSpan
  have hbefore : place ∈ places (base.take span.start) :=
    List.mem_flatMap.mpr ⟨piece, hpiece, hplace⟩
  rw [segment_split span base, List.append_assoc, places_append, places_append,
    List.nodup_append] at hnodup
  exact hnodup.2.2 place hbefore place (List.mem_append_left _ hinSpan) rfl

section After

variable {text : List Char} {base pieces ahead taken behind : List Piece} {span : Span}

theorem inPlace_of_same_places
    {front found back : List Piece} (hpieces : Describes 0 text pieces)
    (hfirst : FirstAt span.text pieces front found back)
    (hsame : forall place : Nat, place ∈ keptPlaces pieces ->
      (place ∈ places found <-> place ∈ places (segment span base))) :
    InPlace base pieces span := by
  intro place _
  rw [hfirst.occurrence]
  have hnodup := hpieces.nodup
  rw [hfirst.split] at hnodup
  have hpart := mem_keptPlaces_part hnodup place
  rw [← hfirst.split] at hpart
  rw [hpart]
  constructor
  · intro hboth
    exact ⟨(hsame place hboth.2).mp hboth.1, hboth.2⟩
  · intro hboth
    exact ⟨(hsame place hboth.2).mpr hboth.1, hboth.2⟩

theorem places_gap_or_taken
    {last : Piece} {rest : List Piece} {place : Nat} (hpieces : Describes 0 text pieces)
    (hcut : pieces = ahead ++ .gap (places taken) :: behind) (hlast : last ∈ taken)
    (hkept : place ∈ keptPlaces pieces) :
    place ∈ places (.gap (places taken) :: rest) <-> place ∈ places (last :: rest) := by
  have hnotTaken : place ∉ places taken := by
    intro hmem
    apply not_mem_cutPlaces hpieces.nodup hkept
    rw [hcut, cutPlaces_append]
    exact List.mem_append_right _ (List.mem_append_left _ hmem)
  constructor
  · intro hmem
    rcases List.mem_append.mp hmem with hgap | hrest
    · exact absurd hgap hnotTaken
    · exact List.mem_append_right _ hrest
  · intro hmem
    rcases List.mem_append.mp hmem with hpiece | hrest
    · exact absurd (List.mem_flatMap.mpr ⟨last, hlast, hpiece⟩) hnotTaken
    · exact List.mem_append_right _ hrest

/-- If no piece right before the gap is outside the span, then beginnings that reach over the gap
have the same remaining places. -/
theorem ReachesOver.places_iff
    {between front left left' : List Piece} {place : Nat}
    (h : ReachesOver ahead taken between front (base.take span.start) left left'
      (.gap (places taken)))
    (hbase : (places base).Nodup) (hpieces : Describes 0 text pieces)
    (hcut : pieces = ahead ++ .gap (places taken) :: behind)
    (hlength : left.length = left'.length)
    (hclose : forall (before : List Piece) (piece : Piece), ahead = before ++ [piece] ->
      piece ∈ left -> exists place : Nat, place ∈ piece.places ∧ place ∈ places (segment span base))
    (hkept : place ∈ keptPlaces pieces) :
    place ∈ places left <-> place ∈ places left' := by
  rcases h with ⟨⟨reach, last, tail, hahead, hleft, hleft', hsuffix⟩, hprefix⟩
  rcases List.eq_nil_or_concat reach with hnil | ⟨front', piece, hreach⟩
  · -- over the gap alone
    rw [hleft, hleft', hnil, List.nil_append, List.length_cons, List.length_append,
      List.length_cons] at hlength
    have htail : tail = [] := List.length_eq_zero_iff.mp (by omega)
    rw [htail] at hleft' hsuffix
    rw [hleft, hleft', hnil, List.nil_append, List.singleton_append]
    exact places_gap_or_taken hpieces hcut (hsuffix.subset List.mem_cons_self) hkept
  · -- further than the gap
    exfalso
    rw [List.concat_eq_append] at hreach
    have hmem : piece ∈ left := by
      rw [hleft, hreach]
      exact List.mem_append_left _ (List.mem_append_right _ (List.mem_singleton.mpr rfl))
    have hlast : ahead = (front ++ front') ++ [piece] := by
      rw [hahead, hreach, List.append_assoc]
    have hbefore : piece ∈ base.take span.start := by
      apply hprefix.subset
      rw [hlast]
      exact List.mem_append_right _ (List.mem_singleton.mpr rfl)
    rcases hclose (front ++ front') piece hlast hmem with ⟨taken', hplace, hinSpan⟩
    exact not_mem_places_segment hbase hbefore hplace hinSpan

theorem kept_mem_around_gap
    {removed : List Nat} {c : Char} {place : Nat}
    (h : Piece.kept c place ∈ ahead ++ .gap removed :: behind) :
    Piece.kept c place ∈ ahead ++ taken ++ behind := by
  rcases List.mem_append.mp h with hahead | hrest
  · exact List.mem_append_left _ (List.mem_append_left _ hahead)
  · cases hrest with
    | tail _ hbehind => exact List.mem_append_right _ hbehind

theorem places_iff_around_mark
    {front left right back left' right' after others : List Piece} {head : Piece} {mark : Char}
    {place other : Nat} (hbase : (places base).Nodup) (hsplit : base = ahead ++ taken ++ behind)
    (hpieces : Describes 0 text pieces) (hcut : pieces = ahead ++ .gap (places taken) :: behind)
    (hfound : (front ++ left) ++ .kept mark place :: (right ++ back) =
      ahead ++ .gap (places taken) :: behind)
    (hspan : base = (base.take span.start ++ left') ++ .kept mark place :: (right' ++ after))
    (hleft : left.length = left'.length) (hright : right.length = right'.length)
    (htaken : taken = head :: others) (hheadLeft : head ∉ left') (hheadRight : head ∉ right')
    (hclose : forall (before : List Piece) (piece : Piece), ahead = before ++ [piece] ->
      piece ∈ left -> exists place : Nat, place ∈ piece.places ∧ place ∈ places (segment span base))
    (hother : other ∈ keptPlaces pieces) :
    other ∈ places (left ++ .kept mark place :: right) <->
      other ∈ places (left' ++ .kept mark place :: right') := by
  rcases List.append_eq_append_iff.mp hfound with
    ⟨between, hahead, hrest⟩ | ⟨between, hfront, hrest⟩
  · -- the mark stands before the gap
    rcases List.cons_eq_append_iff.mp hrest with ⟨_, hgap⟩ | ⟨more, hbetween, hbehind⟩
    · injection hgap with hpiece _
      cases hpiece
    · have hwhole : base = (front ++ left) ++
          .kept mark place :: (more ++ (taken ++ behind)) := by
        rw [hsplit, hahead, hbetween]
        simp only [List.append_assoc, List.cons_append]
      rcases sides_agree_before_gap hbase hwhole hspan hbehind hleft hright htaken hheadRight with
        ⟨hleftEq, hrightEq⟩
      rw [hleftEq, hrightEq]
  · -- the mark stands behind the gap
    rcases List.cons_eq_append_iff.mp hrest with ⟨_, hgap⟩ | ⟨more, hbetween, hbehind⟩
    · injection hgap with hpiece _
      cases hpiece
    · rw [hbetween] at hfront
      have hwhole : base = (ahead ++ (taken ++ more)) ++
          .kept mark place :: (right ++ back) := by
        rw [hsplit, hbehind]
        simp only [List.append_assoc]
      rcases sides_agree_behind_gap hbase hwhole hspan hfront hleft hright htaken hheadLeft with
        ⟨hrightEq, hleftEq | hreaches⟩
      · rw [hleftEq, hrightEq]
      · have hleftPlaces := hreaches.places_iff hbase hpieces hcut hleft hclose hother
        rw [places_append, places_append, List.mem_append, List.mem_append, hleftPlaces, hrightEq]

/-- A second cut is in place if its mark is cut where it was found, no character of it begins the
part that was cut before, and it takes nothing from before that part that lies outside the span. -/
theorem inPlace_after_cut
    {lead rest others : List Char} {mark first : Char} (hbase : Describes 0 text base)
    (hsplit : base = ahead ++ taken ++ behind) (hpieces : Describes 0 text pieces)
    (hcut : pieces = ahead ++ .gap (places taken) :: behind)
    (hspan : chars (segment span base) = lead ++ mark :: rest)
    (htext : span.text = lead ++ mark :: rest) (hblank : mark ≠ ' ') (hlead : mark ∉ lead)
    (hrest : mark ∉ rest) (htaken : chars taken = first :: others)
    (hfirstLead : first ∉ lead) (hfirstRest : first ∉ rest)
    (habsent : Absent span.text pieces ->
      forall place : Nat, place ∈ places (segment span base) -> place ∈ cutPlaces pieces)
    (hmark : forall {front found back : List Piece}, FirstAt span.text pieces front found back ->
      forall place : Nat, .kept mark place ∈ found -> place ∈ places (segment span base))
    (hclose : forall {front found back : List Piece}, FirstAt span.text pieces front found back ->
      forall (before : List Piece) (piece : Piece), ahead = before ++ [piece] -> piece ∈ found ->
        exists place : Nat, place ∈ piece.places ∧ place ∈ places (segment span base)) :
    InPlace base pieces span := by
  have hne : span.text ≠ [] := by
    rw [htext]
    exact List.append_ne_nil_of_right_ne_nil lead (List.cons_ne_nil mark rest)
  rcases cutFirst_cases hne pieces with hnone | ⟨front, found, back, hfirst⟩
  · intro place _
    rw [hnone.occurrence]
    constructor
    · intro hmem
      cases hmem
    · intro hboth
      exact absurd (habsent hnone place hboth.1) (not_mem_cutPlaces hpieces.nodup hboth.2)
  · rcases marked_split hblank (hfirst.text.trans htext) with
      ⟨left, right, place, hfound, hleft, hright⟩
    have hmemFound : Piece.kept mark place ∈ found := by
      rw [hfound]
      exact List.mem_append_right _ List.mem_cons_self
    have hpiecesSplit : (front ++ left) ++ .kept mark place :: (right ++ back) =
        ahead ++ .gap (places taken) :: behind := by
      rw [← hcut, hfirst.split, hfound]
      simp only [List.append_assoc, List.cons_append]
    have hmemBase : Piece.kept mark place ∈ base := by
      rw [hsplit]
      apply kept_mem_around_gap
      rw [← hpiecesSplit]
      exact List.mem_append_right _ List.mem_cons_self
    have hmemSegment := mem_segment_of_kept hbase.nodup hmemBase (hmark hfirst place hmemFound)
    rcases marked_split_at hlead hrest hspan hmemSegment with
      ⟨left', right', hsegment, hleft', hright'⟩
    rcases chars_eq_cons htaken with ⟨head, tail, htakenSplit, hhead, _⟩
    have hapart : forall side : List Piece, first ∉ chars side -> head ∉ side := by
      intro side hside hmem
      rw [← hhead] at hside
      exact hside (List.mem_map_of_mem hmem)
    have hlength : forall side side' : List Piece, chars side = chars side' ->
        side.length = side'.length := by
      intro side side' hchars
      rw [← length_chars, hchars, length_chars]
    apply inPlace_of_same_places hpieces hfirst
    intro other hother
    rw [hfound, hsegment]
    refine places_iff_around_mark hbase.nodup hsplit hpieces hcut hpiecesSplit
      (segment_split_at hsegment) (hlength left left' (hleft.trans hleft'.symm))
      (hlength right right' (hright.trans hright'.symm)) htakenSplit
      (hapart left' (hleft' ▸ hfirstLead)) (hapart right' (hright' ▸ hfirstRest)) ?_ hother
    intro before piece hlast hmem
    apply hclose hfirst before piece hlast
    rw [hfound]
    exact List.mem_append_left _ hmem

end After

end Pieces

end CatalogSearch
