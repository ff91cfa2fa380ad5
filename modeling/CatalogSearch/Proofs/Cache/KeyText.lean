import CatalogSearch.Cache.Key
import CatalogSearch.Proofs.Json.PlainText
import Mathlib.Data.List.Forall2

/-!
# Key texts

The text of a key is read back as its parts, so that lists of parts have one key text exactly
if they show the same parts, in number and in order.
-/

namespace CatalogSearch

namespace Cache

open Json Document

theorem shownParts_distinct (parts : List Json) :
    ItemsDistinct (parts.map fun part => Document.string part.shownText) := by
  induction parts with
  | nil => exact True.intro
  | cons part parts ih => exact ⟨True.intro, ih⟩

theorem shownParts_not_long (parts : List Json) :
    longInItems? (parts.map fun part => Document.string part.shownText) = none := by
  induction parts with
  | nil => rfl
  | cons part parts ih =>
      rw [List.map_cons, longInItems?]
      exact ih

theorem read_keyText (parts : List Json) :
    Json.read (keyText parts) = .ok (.array (parts.map fun part => .string part.shownText)) := by
  have hnames : NamesDistinct (.array (parts.map fun part => Document.string part.shownText)) :=
    shownParts_distinct parts
  have hread := read_write hnames
  rw [longInteger?, shownParts_not_long] at hread
  exact hread

theorem shown_eq_of_keyText_eq
    {first second : List Json} (h : keyText first = keyText second) :
    first.map Json.shown = second.map Json.shown := by
  have hread := read_keyText first
  rw [h, read_keyText second] at hread
  injection hread with hvalue
  injection hvalue with hitems
  have hshown : forall parts : List Json,
      (parts.map fun part => Document.string part.shownText).map Json.shown =
        parts.map Json.shown := by
    intro parts
    rw [List.map_map]
    apply List.map_congr_left
    intro part _
    exact String.toList_ofList
  rw [← hshown first, ← hitems, hshown second]

/-- Lists of parts have one key text exactly if they are of one length and their parts are shown
alike one by one. -/
theorem keyText_eq_iff {first second : List Json} :
    keyText first = keyText second <->
      List.Forall₂ (fun part other => part.shown = other.shown) first second := by
  have hpairs : first.map Json.shown = second.map Json.shown <->
      List.Forall₂ (· = ·) (first.map Json.shown) (second.map Json.shown) := by
    rw [List.forall₂_eq_eq_eq]
  rw [List.forall₂_map_left_iff, List.forall₂_map_right_iff] at hpairs
  rw [← hpairs]
  constructor
  · exact shown_eq_of_keyText_eq
  · intro hshown
    have hwritten : forall parts : List Json,
        parts.map (fun part => Document.string part.shownText) =
          (parts.map Json.shown).map fun text => .string (String.ofList text) := by
      intro parts
      rw [List.map_map]
      rfl
    rw [keyText, keyText, hwritten first, hwritten second, hshown]

end Cache

end CatalogSearch
