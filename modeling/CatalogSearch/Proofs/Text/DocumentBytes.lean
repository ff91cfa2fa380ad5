import CatalogSearch.Text.Encoding

/-!
# Documents in UTF-8 are read back

A text that starts with two ASCII characters shows no other encoding than UTF-8 by its bytes,
so that reading its bytes as a document gives the text.
-/

namespace CatalogSearch

namespace Text

/-!
## Bytes of a text
-/

theorem toList_loop (bytes : ByteArray) (place : Nat) (done : List UInt8) :
    ByteArray.toList.loop bytes place done = done.reverse ++ bytes.data.toList.drop place := by
  fun_induction ByteArray.toList.loop bytes place done with
  | case1 place done hlt ih =>
      have hlength : place < bytes.data.toList.length := hlt
      have hbyte : bytes.get! place = bytes.data.toList[place] := by
        simp only [ByteArray.get!, getElem!_pos bytes.data place hlt]
        rfl
      rw [ih, List.drop_eq_getElem_cons hlength, List.reverse_cons, List.append_assoc, hbyte,
        List.singleton_append]
  | case2 place done hge =>
      have hlength : bytes.data.toList.length ≤ place := Nat.le_of_not_lt hge
      rw [List.drop_eq_nil_of_le hlength, List.append_nil]

theorem bytes_toList (bytes : ByteArray) :
    bytes.toList = bytes.data.toList := by
  rw [ByteArray.toList, toList_loop, List.reverse_nil, List.nil_append, List.drop_zero]

theorem toUTF8_toList (text : String) :
    text.toUTF8.toList = text.toList.flatMap String.utf8EncodeChar := by
  have hbytes : text.toUTF8 = text.toList.utf8Encode := String.utf8Encode_toList.symm
  rw [hbytes, bytes_toList, List.utf8Encode, List.toList_data_toByteArray]

theorem decode8_toUTF8 (text : String) :
    decode8 text.toUTF8 = some (wide text.toList) := by
  have hvalid : ByteArray.IsValidUTF8 text.toUTF8 := text.isValidUTF8
  unfold decode8 String.fromUTF8?
  rw [dif_pos hvalid]
  rfl

/-!
## The encoding that a document shows
-/

theorem encoding_ofBytes
    {first second : UInt8} (rest : List UInt8) (hfirst : 0 < first.toNat ∧ first.toNat < 0x80)
    (hsecond : 0 < second.toNat) :
    Encoding.ofBytes (first :: second :: rest) = .utf8 := by
  have hfirstNe : first ≠ 0 := by
    intro heq
    rw [heq] at hfirst
    exact absurd hfirst.1 (by decide)
  have hsecondNe : second ≠ 0 := by
    intro heq
    rw [heq] at hsecond
    exact absurd hsecond (by decide)
  -- no byte order mark begins with a zero or with an ASCII character
  have hunmarked : forall (byte : UInt8) (tail : List UInt8), byte.toNat = 0 ∨ 0x80 ≤ byte.toNat ->
      first :: second :: rest ≠ byte :: tail := by
    intro byte tail hbyte heq
    injection heq with hhead _
    rw [hhead] at hfirst
    omega
  unfold Encoding.ofBytes
  split
  · exact absurd (by assumption) (hunmarked _ _ (by decide))
  · exact absurd (by assumption) (hunmarked _ _ (by decide))
  · exact absurd (by assumption) (hunmarked _ _ (by decide))
  · exact absurd (by assumption) (hunmarked _ _ (by decide))
  · exact absurd (by assumption) (hunmarked _ _ (by decide))
  · unfold Encoding.ofZeros
    split
    · rename_i heq
      injection heq with hbyte htail
      injection htail with hnext _
      rw [← hbyte, ← hnext, if_neg hfirstNe, if_neg hsecondNe]
    · rename_i heq
      injection heq with hbyte htail
      injection htail with hnext _
      rw [← hbyte, ← hnext, if_neg hfirstNe, if_neg hsecondNe]
    · rfl

theorem utf8EncodeChar_ascii
    {c : Char} (h : c.toNat < 0x80) :
    String.utf8EncodeChar c = [UInt8.ofNat c.toNat] := by
  have hle : c.val.toNat ≤ 0x7f := Nat.le_of_lt_succ h
  unfold String.utf8EncodeChar
  rw [if_pos hle]
  rfl

/-- A text that starts with two ASCII characters is read back from its bytes. -/
theorem decodeDocument_toUTF8
    {text : String} {first second : Char} {rest : List Char}
    (htext : text.toList = first :: second :: rest)
    (hfirst : 0 < first.toNat ∧ first.toNat < 0x80)
    (hsecond : 0 < second.toNat ∧ second.toNat < 0x80) :
    decodeDocument text.toUTF8 = some (wide text.toList) := by
  have hbytes : text.toUTF8.toList = UInt8.ofNat first.toNat :: UInt8.ofNat second.toNat ::
      rest.flatMap String.utf8EncodeChar := by
    rw [toUTF8_toList, htext, List.flatMap_cons, List.flatMap_cons,
      utf8EncodeChar_ascii hfirst.2, utf8EncodeChar_ascii hsecond.2]
    rfl
  have htoNat : forall n : Nat, n < 0x80 -> (UInt8.ofNat n).toNat = n := by
    intro n hlt
    rw [UInt8.toNat_ofNat']
    exact Nat.mod_eq_of_lt (by omega)
  have hencoding : Encoding.ofBytes text.toUTF8.toList = .utf8 := by
    rw [hbytes]
    apply encoding_ofBytes
    · rw [htoNat _ hfirst.2]
      exact hfirst
    · rw [htoNat _ hsecond.2]
      exact hsecond.1
  unfold decodeDocument
  rw [hencoding]
  exact decode8_toUTF8 text

end Text

end CatalogSearch
