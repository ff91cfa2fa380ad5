import CatalogSearch.Proofs.Json.ReadBack
import Mathlib.Data.List.Nodup

/-!
# Values in characters

The written text of a value is in characters exactly if all its names and texts are, and only
then it has bytes.  So a value that is worked with, which is made of characters, can always be
stored, and is read back from its own text.
-/

namespace CatalogSearch

open Json

namespace Text

def IsPlain (text : WideText) : Prop :=
  forall place, .surrogate place ∉ text

theorem isPlain_nil : IsPlain [] :=
  fun _ => List.not_mem_nil

theorem isPlain_append {front back : WideText} :
    IsPlain (front ++ back) <-> IsPlain front ∧ IsPlain back := by
  constructor
  · intro h
    exact ⟨fun place hmem => h place (List.mem_append_left _ hmem),
      fun place hmem => h place (List.mem_append_right _ hmem)⟩
  · rintro ⟨hfront, hback⟩ place hmem
    rcases List.mem_append.mp hmem with h | h
    · exact hfront place h
    · exact hback place h

theorem isPlain_char_cons {c : Char} {text : WideText} :
    IsPlain (.char c :: text) <-> IsPlain text := by
  simp [IsPlain]

theorem isPlain_wide (text : List Char) : IsPlain (wide text) := by
  simp [IsPlain, wide]

theorem wide_shown_of_isPlain {text : WideText} (h : IsPlain text) : wide (shown text) = text := by
  induction text with
  | nil => rfl
  | cons point text ih =>
      cases point with
      | char c => exact congrArg (CodePoint.char c :: ·) (ih (isPlain_char_cons.mp h))
      | surrogate place => exact absurd List.mem_cons_self (h place)

theorem charactersFrom_of_not_isPlain {text : WideText} (place : Nat) (h : ¬ IsPlain text) :
    exists error, charactersFrom place text = .error error := by
  induction text generalizing place with
  | nil => exact absurd isPlain_nil h
  | cons point text ih =>
      cases point with
      | char c =>
          rcases ih (place + 1) (fun hplain => h (isPlain_char_cons.mpr hplain)) with
            ⟨error, herror⟩
          exact ⟨error, by rw [charactersFrom, herror]; rfl⟩
      | surrogate first => exact ⟨_, rfl⟩

theorem encode_of_isPlain {text : WideText} (h : IsPlain text) :
    encode text = .ok (String.ofList (shown text)).toUTF8 := by
  rw [← encode_wide, wide_shown_of_isPlain h]

theorem encode_of_not_isPlain {text : WideText} (h : ¬ IsPlain text) :
    exists error, encode text = .error error := by
  rcases charactersFrom_of_not_isPlain 0 h with ⟨error, herror⟩
  exact ⟨error, by rw [encode, herror]; rfl⟩

end Text

namespace WideJson

open Text

mutual

def IsPlain : WideJson -> Prop
  | .string text => Text.IsPlain text
  | .array items => ItemsPlain items
  | .object members => MembersPlain members
  | _ => True

def ItemsPlain : List WideJson -> Prop
  | [] => True
  | item :: rest => IsPlain item ∧ ItemsPlain rest

def MembersPlain : List (WideText × WideJson) -> Prop
  | [] => True
  | (name, value) :: rest => (Text.IsPlain name ∧ IsPlain value) ∧ MembersPlain rest

end

/-!
## Written texts
-/

theorem isPlain_flatMap_escaped {text : WideText} :
    Text.IsPlain (text.flatMap escaped) <-> Text.IsPlain text := by
  induction text with
  | nil => exact Iff.rfl
  | cons point text ih =>
      rw [List.flatMap_cons, isPlain_append, ih]
      cases point with
      | char c =>
          rw [isPlain_char_cons]
          exact and_iff_right (isPlain_wide _)
      | surrogate place =>
          constructor
          · exact fun h => absurd List.mem_cons_self (h.1 place)
          · exact fun h => absurd List.mem_cons_self (h place)

theorem isPlain_writeString {text : WideText} :
    Text.IsPlain (writeString text) <-> Text.IsPlain text := by
  have hclose : Text.IsPlain [.char '\x22'] := isPlain_wide ['\x22']
  rw [writeString, List.cons_append, isPlain_char_cons, isPlain_append, isPlain_flatMap_escaped]
  exact and_iff_left hclose

theorem isPlain_separate_cons {part : WideText} {rest : List WideText} :
    Text.IsPlain (separate (part :: rest)) <->
      Text.IsPlain part ∧ Text.IsPlain (separate rest) := by
  cases rest with
  | nil => exact (and_iff_left isPlain_nil).symm
  | cons next rest =>
      have hparts : separate (part :: next :: rest) =
          part ++ .char ',' :: .char ' ' :: separate (next :: rest) := rfl
      rw [hparts, isPlain_append, isPlain_char_cons, isPlain_char_cons]

theorem isPlain_enclosed {first last : Char} {text : WideText} :
    Text.IsPlain (.char first :: text ++ [.char last]) <-> Text.IsPlain text := by
  have hlast : Text.IsPlain [.char last] := isPlain_wide [last]
  rw [List.cons_append, isPlain_char_cons, isPlain_append]
  exact and_iff_left hlast

mutual

/-- A written value is in characters exactly if its names and texts are. -/
theorem isPlain_write (value : WideJson) :
    Text.IsPlain value.write <-> value.IsPlain := by
  cases value with
  | null => exact iff_of_true (isPlain_wide _) True.intro
  | bool value =>
      cases value with
      | true => exact iff_of_true (isPlain_wide _) True.intro
      | false => exact iff_of_true (isPlain_wide _) True.intro
  | int value => exact iff_of_true (isPlain_wide _) True.intro
  | float value => exact iff_of_true (isPlain_wide _) True.intro
  | string text =>
      rw [write]
      exact isPlain_writeString
  | array items =>
      rw [write, isPlain_enclosed]
      exact isPlain_writeItems items
  | object members =>
      rw [write, isPlain_enclosed]
      exact isPlain_writeMembers members

theorem isPlain_writeItems (items : List WideJson) :
    Text.IsPlain (separate (writeItems items)) <-> ItemsPlain items := by
  match items with
  | [] => exact iff_of_true isPlain_nil True.intro
  | item :: rest =>
      rw [writeItems, isPlain_separate_cons, isPlain_write item, isPlain_writeItems rest]
      rfl

theorem isPlain_writeMembers (members : List (WideText × WideJson)) :
    Text.IsPlain (separate (writeMembers members)) <-> MembersPlain members := by
  match members with
  | [] => exact iff_of_true isPlain_nil True.intro
  | (name, value) :: rest =>
      rw [writeMembers, isPlain_separate_cons, isPlain_append, isPlain_char_cons, isPlain_char_cons,
        isPlain_writeString, isPlain_write value, isPlain_writeMembers rest]
      rfl

end

end WideJson

/-!
## Values in characters
-/

namespace Document

variable {σ τ : Type} (f : σ -> τ)

mutual

theorem longInteger?_map (value : Document σ) :
    longInteger? (value.map f) = longInteger? value := by
  cases value with
  | null => rfl
  | bool value => rfl
  | int value => rfl
  | float value => rfl
  | string text => rfl
  | array items => exact longInItems?_map items
  | object members => exact longInMembers?_map members

theorem longInItems?_map (items : List (Document σ)) :
    longInItems? (mapItems f items) = longInItems? items := by
  match items with
  | [] => rfl
  | item :: rest =>
      rw [mapItems, longInItems?_cons, longInItems?_cons, longInteger?_map item,
        longInItems?_map rest]

theorem longInMembers?_map (members : List (σ × Document σ)) :
    longInMembers? (mapMembers f members) = longInMembers? members := by
  match members with
  | [] => rfl
  | (name, value) :: rest =>
      rw [mapMembers, longInMembers?_cons, longInMembers?_cons, longInteger?_map value,
        longInMembers?_map rest]

end

theorem map_fst_mapMembers (members : List (σ × Document σ)) :
    (mapMembers f members).map Prod.fst = (members.map Prod.fst).map f := by
  induction members with
  | nil => rfl
  | cons entry rest ih => rw [mapMembers, List.map_cons, ih, List.map_cons, List.map_cons]

variable {f}

mutual

theorem namesDistinct_map (hf : Function.Injective f) (value : Document σ)
    (h : NamesDistinct value) : NamesDistinct (value.map f) := by
  cases value with
  | null => exact True.intro
  | bool value => exact True.intro
  | int value => exact True.intro
  | float value => exact True.intro
  | string text => exact True.intro
  | array items => exact itemsDistinct_map hf items h
  | object members =>
      rw [NamesDistinct] at h
      rw [map, NamesDistinct, map_fst_mapMembers]
      exact ⟨List.Nodup.map hf h.1, membersDistinct_map hf members h.2⟩

theorem itemsDistinct_map (hf : Function.Injective f) (items : List (Document σ))
    (h : ItemsDistinct items) : ItemsDistinct (mapItems f items) := by
  match items, h with
  | [], _ => exact True.intro
  | item :: rest, h =>
      rw [ItemsDistinct] at h
      exact ⟨namesDistinct_map hf item h.1, itemsDistinct_map hf rest h.2⟩

theorem membersDistinct_map (hf : Function.Injective f) (members : List (σ × Document σ))
    (h : MembersDistinct members) : MembersDistinct (mapMembers f members) := by
  match members, h with
  | [], _ => exact True.intro
  | (name, value) :: rest, h =>
      rw [MembersDistinct] at h
      exact ⟨namesDistinct_map hf value h.1, membersDistinct_map hf rest h.2⟩

end

end Document

namespace Json

open Text

theorem ofList_shown_wide (text : String) :
    String.ofList (Text.shown (Text.wide text.toList)) = text := by
  rw [shown_wide, String.ofList_toList]

theorem wide_injective : Function.Injective fun text : String => Text.wide text.toList := by
  intro first second h
  rw [← ofList_shown_wide first, ← ofList_shown_wide second]
  exact congrArg (fun text => String.ofList (Text.shown text)) h

mutual

/-- A value in characters is shown as it is. -/
theorem shown_wide (value : Json) : value.wide.shown = value := by
  cases value with
  | null => rfl
  | bool value => rfl
  | int value => rfl
  | float value => rfl
  | string text => exact congrArg Document.string (ofList_shown_wide text)
  | array items => exact congrArg Document.array (shownItems_wide items)
  | object members => exact congrArg Document.object (shownMembers_wide members)

theorem shownItems_wide (items : List Json) :
    Document.mapItems (fun text => String.ofList (Text.shown text))
      (Document.mapItems (fun text => Text.wide text.toList) items) = items := by
  match items with
  | [] => rfl
  | item :: rest => exact congrArg₂ List.cons (shown_wide item) (shownItems_wide rest)

theorem shownMembers_wide (members : List (String × Json)) :
    Document.mapMembers (fun text => String.ofList (Text.shown text))
      (Document.mapMembers (fun text => Text.wide text.toList) members) = members := by
  match members with
  | [] => rfl
  | (name, value) :: rest =>
      exact congrArg₂ List.cons
        (congrArg₂ Prod.mk (ofList_shown_wide name) (shown_wide value)) (shownMembers_wide rest)

end

mutual

theorem isPlain_wide (value : Json) : value.wide.IsPlain := by
  cases value with
  | null => exact True.intro
  | bool value => exact True.intro
  | int value => exact True.intro
  | float value => exact True.intro
  | string text => exact Text.isPlain_wide _
  | array items => exact itemsPlain_wide items
  | object members => exact membersPlain_wide members

theorem itemsPlain_wide (items : List Json) :
    WideJson.ItemsPlain (Document.mapItems (fun text => Text.wide text.toList) items) := by
  match items with
  | [] => exact True.intro
  | item :: rest => exact ⟨isPlain_wide item, itemsPlain_wide rest⟩

theorem membersPlain_wide (members : List (String × Json)) :
    WideJson.MembersPlain (Document.mapMembers (fun text => Text.wide text.toList) members) := by
  match members with
  | [] => exact True.intro
  | (name, value) :: rest =>
      exact ⟨⟨Text.isPlain_wide _, isPlain_wide value⟩, membersPlain_wide rest⟩

end

theorem wide_write (value : Json) : Text.wide value.write = value.wide.write :=
  wide_shown_of_isPlain ((WideJson.isPlain_write _).mpr (isPlain_wide value))

/-- The text of a value is read back as the value. -/
theorem read_write {value : Json} (hnames : value.NamesDistinct) :
    read value.write = WideJson.readBack value.longInteger? value := by
  have hread := WideJson.read_write (Document.namesDistinct_map wide_injective value hnames)
  rw [Document.longInteger?_map] at hread
  rw [read, wide_write, wide, hread, WideJson.readBack_map]
  exact congrArg _ (shown_wide value)

/-- The bytes of a value are those of its text. -/
theorem encode_write (value : Json) :
    encode value.wide.write = .ok value.toText.toUTF8 := by
  rw [← wide_write, encode_wide, toText]

end Json

end CatalogSearch
