import CatalogSearch.Cache.Remote
import CatalogSearch.Proofs.Json.PlainText
import CatalogSearch.Proofs.Text.DocumentBytes

/-!
# Responses in a remote store

The bytes of a written object are read back as the object, unless it holds an integer with too
many digits; then they are read as no response.
-/

namespace CatalogSearch

open WideJson Document

/-- The text of an object starts with a brace and a quote or another brace. -/
theorem WideJson.shown_write_object (members : List (WideText × WideJson)) :
    exists second rest, Text.shown (write (.object members)) = '\x7b' :: second :: rest ∧
      0 < second.toNat ∧ second.toNat < 0x80 := by
  have htext : Text.shown (write (.object members)) =
      '\x7b' :: Text.shown (separate (writeMembers members) ++ [.char '\x7d']) := rfl
  rw [htext]
  cases members with
  | nil => exact ⟨'\x7d', [], rfl, by decide, by decide⟩
  | cons entry members =>
      rcases entry with ⟨name, value⟩
      refine ⟨'\x22', ?_⟩
      cases members with
      | nil => exact ⟨_, rfl, by decide, by decide⟩
      | cons next members => exact ⟨_, rfl, by decide, by decide⟩

namespace RemoteStore

variable {members : List (WideText × WideJson)} {bytes : ByteArray}

theorem decode_object (hnames : NamesDistinct (.object members))
    (hbytes : Text.encode (write (.object members)) = .ok bytes) :
    decode bytes = (readBack (longInteger? (.object members : WideJson))
      (.object members : WideJson)).toOption := by
  have hplain : Text.IsPlain (write (.object members)) := by
    by_contra hnot
    rcases Text.encode_of_not_isPlain hnot with ⟨error, herror⟩
    rw [herror] at hbytes
    cases hbytes
  rw [Text.encode_of_isPlain hplain] at hbytes
  injection hbytes with hbytes
  rcases shown_write_object members with ⟨second, rest, htext, hsecond⟩
  rw [← String.toList_ofList (l := Text.shown _)] at htext
  have hdecode := Text.decodeDocument_toUTF8 htext (by decide) hsecond
  rw [String.toList_ofList, Text.wide_shown_of_isPlain hplain] at hdecode
  rw [← hbytes, decode, hdecode, Option.bind_some, read_write hnames]

theorem decodeResponse_object (key : String) (hnames : NamesDistinct (.object members))
    (hbytes : Text.encode (write (.object members)) = .ok bytes)
    (hshort : longInteger? (.object members : WideJson) = none) :
    decodeResponse key bytes = .plain (some (.object members)) := by
  have hdecode := decode_object hnames hbytes
  rw [hshort] at hdecode
  have hsome : decode bytes = some (.object members) := hdecode
  rw [decodeResponse, hsome]

theorem decodeResponse_long {count : Nat} (key : String) (hnames : NamesDistinct (.object members))
    (hbytes : Text.encode (write (.object members)) = .ok bytes)
    (hlong : longInteger? (.object members : WideJson) = some count) :
    (decodeResponse key bytes).value = none := by
  have hdecode := decode_object hnames hbytes
  rw [hlong] at hdecode
  have hnone : decode bytes = none := hdecode
  rw [decodeResponse, hnone]

/-- Whatever is read from the bytes of an object is the object, and its integers are short. -/
theorem decodeResponse_eq_some {key : String} {response : WideJson}
    (hnames : NamesDistinct (.object members))
    (hbytes : Text.encode (write (.object members)) = .ok bytes)
    (h : (decodeResponse key bytes).value = some response) :
    response = .object members ∧ longInteger? (.object members : WideJson) = none := by
  cases hlong : longInteger? (.object members : WideJson) with
  | none =>
      rw [decodeResponse_object key hnames hbytes hlong] at h
      exact ⟨(Option.some.inj h).symm, rfl⟩
  | some count =>
      rw [decodeResponse_long key hnames hbytes hlong] at h
      cases h

/-!
## Objects in characters
-/

section Characters

variable {fields : List (String × Json)}

theorem encode_wide_object (fields : List (String × Json)) :
    Text.encode (write (.object (mapMembers (fun text : String => Text.wide text.toList) fields))) =
      .ok (Json.toText (.object fields)).toUTF8 :=
  Json.encode_write (.object fields)

theorem namesDistinct_wide (hnames : NamesDistinct (.object fields)) :
    NamesDistinct (.object (mapMembers (fun text : String => Text.wide text.toList) fields)) :=
  namesDistinct_map Json.wide_injective (.object fields) hnames

theorem longInteger?_wide (fields : List (String × Json)) :
    longInteger? (.object (mapMembers (fun text : String => Text.wide text.toList) fields)) =
      longInteger? (.object fields : Json) :=
  longInteger?_map _ (.object fields)

theorem decodeResponse_toText (key : String) (hnames : NamesDistinct (.object fields))
    (hshort : longInteger? (.object fields : Json) = none) :
    decodeResponse key (Json.toText (.object fields)).toUTF8 =
      .plain (some (Json.wide (.object fields))) :=
  decodeResponse_object key (namesDistinct_wide hnames) (encode_wide_object fields)
    ((longInteger?_wide fields).trans hshort)

theorem shown_of_decodeResponse_toText {key : String} {response : WideJson}
    (hnames : NamesDistinct (.object fields))
    (h : (decodeResponse key (Json.toText (.object fields)).toUTF8).value = some response) :
    response.shown = .object fields ∧ longInteger? (.object fields : Json) = none := by
  rcases decodeResponse_eq_some (namesDistinct_wide hnames) (encode_wide_object fields) h with
    ⟨rfl, hshort⟩
  exact ⟨Json.shown_wide (.object fields), (longInteger?_wide fields).symm.trans hshort⟩

end Characters

/-!
## Bytes under keys
-/

/-- A response is found only in a store in reach, in the bytes under its key. -/
theorem get_eq_some
    {store : RemoteStore} {key : String} {response : WideJson}
    (h : (store.get key).value = some response) :
    store.outage = none ∧ exists bytes, store.bytes? key = some bytes ∧
      (decodeResponse key bytes).value = some response := by
  unfold get at h
  cases houtage : store.outage with
  | some reason =>
      rw [houtage] at h
      cases h
  | none =>
      rw [houtage] at h
      cases hbytes : store.bytes? key with
      | none =>
          simp only [hbytes] at h
          cases h
      | some bytes =>
          simp only [hbytes] at h
          exact ⟨rfl, bytes, rfl, h⟩

theorem get_of_outage
    {reason : String} (store : RemoteStore) (key : String) (h : store.outage = some reason) :
    (store.get key).value = none := by
  simp only [get, h]

theorem lookup_filter_keys
    (entries : List (String × StoredBytes)) (keep : String -> Bool) (key : String) :
    (entries.filter fun entry => keep entry.1).lookup key =
      if keep key then entries.lookup key else none := by
  induction entries with
  | nil => simp
  | cons entry rest ih =>
      rcases entry with ⟨name, value⟩
      by_cases hname : key = name
      · subst hname
        cases hkeep : keep key with
        | true => simp [hkeep]
        | false => simp [hkeep, ih]
      · have hother : (key == name) = false := beq_false_of_ne hname
        cases hkeep : keep name with
        | true => simp [hkeep, List.lookup_cons, hother, ih]
        | false => simp [hkeep, List.lookup_cons, hother, ih]

theorem bytes?_put (store : RemoteStore) (key : String) (value : StoredBytes) :
    (store.put key value).bytes? key = some value.bytes := by
  simp [bytes?, put, List.lookup_append, lookup_filter_keys _ (fun name => name != key)]

theorem bytes?_put_of_ne (store : RemoteStore) {key other : String} (value : StoredBytes)
    (h : other ≠ key) :
    (store.put key value).bytes? other = store.bytes? other := by
  simp [bytes?, put, List.lookup_append, lookup_filter_keys _ (fun name => name != key), h,
    List.lookup_cons, beq_false_of_ne h]

end RemoteStore

end CatalogSearch
