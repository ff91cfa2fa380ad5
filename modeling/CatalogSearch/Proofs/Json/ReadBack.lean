import CatalogSearch.Proofs.Json.NumberReadBack
import CatalogSearch.Proofs.Json.StringReadBack

/-!
# Written values are read back

A value whose objects name each member once is read back from its text, with the length of the
text as fuel, unless it holds an integer with too many digits; then reading fails for that
reason.
-/

namespace CatalogSearch

open Text

namespace Document

variable {τ : Type}

/-!
## What is read back
-/

mutual

def longInteger? : Document τ -> Option Nat
  | int value =>
    if digitLimit < (decimalDigits value.natAbs).length then
      some (decimalDigits value.natAbs).length
    else none
  | array items => longInItems? items
  | object members => longInMembers? members
  | _ => none

def longInItems? : List (Document τ) -> Option Nat
  | [] => none
  | item :: rest =>
    match longInteger? item with
    | some count => some count
    | none => longInItems? rest

def longInMembers? : List (τ × Document τ) -> Option Nat
  | [] => none
  | (_, value) :: rest =>
    match longInteger? value with
    | some count => some count
    | none => longInMembers? rest

end

mutual

def NamesDistinct : Document τ -> Prop
  | array items => ItemsDistinct items
  | object members => (members.map Prod.fst).Nodup ∧ MembersDistinct members
  | _ => True

def ItemsDistinct : List (Document τ) -> Prop
  | [] => True
  | item :: rest => NamesDistinct item ∧ ItemsDistinct rest

def MembersDistinct : List (τ × Document τ) -> Prop
  | [] => True
  | (_, value) :: rest => NamesDistinct value ∧ MembersDistinct rest

end

theorem longInItems?_cons (item : Document τ) (rest : List (Document τ)) :
    longInItems? (item :: rest) = (longInteger? item).or (longInItems? rest) := by
  rw [longInItems?]
  cases longInteger? item with
  | none => rfl
  | some count => rfl

theorem longInMembers?_cons (name : τ) (value : Document τ) (rest : List (τ × Document τ)) :
    longInMembers? ((name, value) :: rest) = (longInteger? value).or (longInMembers? rest) := by
  rw [longInMembers?]
  cases longInteger? value with
  | none => rfl
  | some count => rfl

theorem putMember_new [DecidableEq τ]
    {name : τ} {value : Document τ} {members : List (τ × Document τ)}
    (h : name ∉ members.map Prod.fst) :
    putMember name value members = members ++ [(name, value)] := by
  induction members with
  | nil => rfl
  | cons entry rest ih =>
      rcases entry with ⟨other, old⟩
      simp only [List.map_cons, List.mem_cons, not_or] at h
      rw [putMember, if_neg (Ne.symm h.1), ih h.2, List.cons_append]

end Document

namespace WideJson

open Json Document

/-- The outcome of reading: a result, unless an integer has too many digits. -/
def readBack {α : Type} (long? : Option Nat) (result : α) : Except ReadError α :=
  match long? with
  | some count => .error (.tooManyDigits count)
  | none => .ok result

theorem readBack_map
    {α β : Type} (f : α -> β) (long? : Option Nat) (result : α) :
    (readBack long? result).map f = readBack long? (f result) := by
  cases long? with
  | none => rfl
  | some count => rfl

/-- One reading after another fails for the first integer with too many digits. -/
theorem readBack_bind
    {α β : Type} {first second : Option Nat} {result : α} {next : α -> Except ReadError β}
    {final : β} (h : next result = readBack second final) :
    (readBack first result).bind next = readBack (first.or second) final := by
  cases first with
  | none => exact h
  | some count => rfl

/-!
## First characters
-/

def OpensValue (text : WideText) : Prop :=
  exists c rest, text = .char c :: rest ∧ c ∉ [' ', '\t', '\n', '\r', ']', '\x7d']

theorem OpensWithDigit.opensValue
    {text : List Char} (h : OpensWithDigit text) :
    OpensValue (wide text) := by
  rcases h with ⟨c, rest, rfl, hc⟩
  refine ⟨c, wide rest, rfl, ?_⟩
  intro hmem
  have hnot : c.isDigit = false := Text.forall_mem_of_check hmem (by decide)
  rw [hnot] at hc
  cases hc

theorem OpensValue.append
    {text : WideText} (h : OpensValue text) (rest : WideText) :
    OpensValue (text ++ rest) := by
  rcases h with ⟨c, more, hcons, hc⟩
  exact ⟨c, more ++ rest, by rw [hcons, List.cons_append], hc⟩

theorem opensValue_integerText (value : Int) :
    OpensValue (wide (integerText value)) := by
  unfold integerText
  split
  · exact ⟨'-', _, rfl, by decide⟩
  · exact (opensWithDigit_decimalDigits _).opensValue

theorem opensValue_shortestText (value : Binary64) :
    OpensValue (wide (value.shortestText Binary64.documentLayout)) := by
  cases value with
  | nan => exact ⟨'N', _, rfl, by decide⟩
  | signed negative size =>
      cases negative with
      | true => exact ⟨'-', _, rfl, by decide⟩
      | false =>
          by_cases hfinite : size.isFinite = true
          · simp only [Binary64.shortestText, hfinite, if_true]
            exact (opensWithDigit_magnitudeText _ size).opensValue
          · simp only [Binary64.shortestText, hfinite]
            exact ⟨'I', _, rfl, by decide⟩

theorem opensValue_write (value : WideJson) :
    OpensValue value.write := by
  cases value with
  | null => exact ⟨'n', _, rfl, by decide⟩
  | bool value =>
      cases value with
      | true => exact ⟨'t', _, rfl, by decide⟩
      | false => exact ⟨'f', _, rfl, by decide⟩
  | int value =>
      rw [write]
      exact opensValue_integerText value
  | float value =>
      rw [write]
      exact opensValue_shortestText value
  | string value => exact ⟨'\x22', _, rfl, by decide⟩
  | array items => exact ⟨'[', _, rfl, by decide⟩
  | object members => exact ⟨'\x7b', _, rfl, by decide⟩

theorem skipSpace_of_opensValue
    {text : WideText} (h : OpensValue text) :
    skipSpace text = text := by
  rcases h with ⟨c, rest, rfl, hc⟩
  simp only [List.mem_cons, List.not_mem_nil, not_or] at hc
  unfold skipSpace
  split
  · rename_i heq
    injection heq with hpoint _
    injection hpoint with hchar
    exact absurd hchar hc.1
  · rename_i heq
    injection heq with hpoint _
    injection hpoint with hchar
    exact absurd hchar hc.2.1
  · rename_i heq
    injection heq with hpoint _
    injection hpoint with hchar
    exact absurd hchar hc.2.2.1
  · rename_i heq
    injection heq with hpoint _
    injection hpoint with hchar
    exact absurd hchar hc.2.2.2.1
  · rfl

/-!
## Steps of the reader
-/

theorem readNumber_of_readNumeral (long? : Option Nat) {text : List Char} {rest : WideText}
    {value : WideJson} (htext : NumberChars text) (hrest : StopsNumber rest)
    (h : readNumeral text = readBack long? (value, [])) :
    readNumber (wide text ++ rest) = readBack long? (value, rest) := by
  rw [readNumber, spanNumber_append htext hrest]
  simp only [h, readBack_map, wide_nil, List.nil_append]

def OpensNumber (text : List Char) : Prop :=
  OpensWithDigit text ∨ exists rest, text = '-' :: rest ∧ OpensWithDigit rest

theorem readName?_of_opensNumber {text : List Char} (rest : WideText) (h : OpensNumber text) :
    readName? (wide text ++ rest) = none := by
  rcases h with ⟨c, more, rfl, hc⟩ | ⟨_, rfl, c, more, rfl, hc⟩
  · rw [wide_cons, List.cons_append]
    unfold readName?
    split
    all_goals first
      | rfl
      | (rename_i heq
         injection heq with hpoint _
         injection hpoint with hchar
         subst hchar
         cases hc)
  · rw [wide_cons, wide_cons, List.cons_append, List.cons_append]
    unfold readName?
    split
    all_goals first
      | rfl
      | (rename_i heq
         injection heq with _ htail
         injection htail with hpoint _
         injection hpoint with hchar
         subst hchar
         cases hc)

theorem readValue_of_opensNumber {text : List Char} (fuel : Nat) (rest : WideText)
    (h : OpensNumber text) :
    readValue (fuel + 1) (wide text ++ rest) = readNumber (wide text ++ rest) := by
  have hscalar : readScalar (wide text ++ rest) = readNumber (wide text ++ rest) := by
    rw [readScalar, readName?_of_opensNumber rest h]
  have hfirst : exists c more, wide text ++ rest = .char c :: more ∧ c ∉ ['\x22', '[', '\x7b'] := by
    rcases h with ⟨c, more, rfl, hc⟩ | ⟨more, rfl, _⟩
    · refine ⟨c, _, rfl, ?_⟩
      intro hmem
      have hnot : c.isDigit = false := Text.forall_mem_of_check hmem (by decide)
      rw [hnot] at hc
      cases hc
    · exact ⟨'-', _, rfl, by decide⟩
  rw [← hscalar]
  rcases hfirst with ⟨c, more, hcons, hc⟩
  rw [hcons]
  unfold readValue
  split
  all_goals first
    | rfl
    | (rename_i heq
       injection heq with hpoint _
       injection hpoint with hchar
       subst hchar
       exact absurd hc (by decide))

theorem readValue_array
    {text : WideText} (fuel : Nat) (h : OpensValue text) :
    readValue (fuel + 1) (.char '[' :: text) =
      (readItems fuel text).map fun read => (.array read.1, read.2) := by
  have hskip := skipSpace_of_opensValue h
  rcases h with ⟨c, rest, rfl, hc⟩
  have hclose : c ≠ ']' := by
    intro heq
    exact hc (by rw [heq]; decide)
  unfold readValue
  simp only [hskip]
  split
  · rename_i heq
    injection heq with hpoint _
    injection hpoint with hchar
    exact absurd hchar hclose
  · cases readItems fuel (.char c :: rest) with
    | error error => rfl
    | ok read => rfl

theorem readValue_object
    {text : WideText} (fuel : Nat) (h : OpensValue text) :
    readValue (fuel + 1) (.char '\x7b' :: text) =
      (readMembers fuel [] text).map fun read => (.object read.1, read.2) := by
  have hskip := skipSpace_of_opensValue h
  rcases h with ⟨c, rest, rfl, hc⟩
  have hclose : c ≠ '\x7d' := by
    intro heq
    exact hc (by rw [heq]; decide)
  unfold readValue
  simp only [hskip]
  split
  · rename_i heq
    injection heq with hpoint _
    injection hpoint with hchar
    exact absurd hchar hclose
  · cases readMembers fuel [] (.char c :: rest) with
    | error error => rfl
    | ok read => rfl

theorem readItems_last
    {fuel : Nat} {text rest : WideText} {item : WideJson} {long? : Option Nat}
    (h : readValue fuel text = readBack long? (item, .char ']' :: rest)) :
    readItems (fuel + 1) text = readBack long? ([item], rest) := by
  rw [readItems, h]
  cases long? with
  | none => rfl
  | some count => rfl

theorem readItems_next
    {fuel : Nat} {text more : WideText} {item : WideJson} {long? : Option Nat}
    (h : readValue fuel text = readBack long? (item, .char ',' :: .char ' ' :: more))
    (hmore : OpensValue more) :
    readItems (fuel + 1) text =
      (readBack long? item).bind fun item =>
        (readItems fuel more).map fun read => (item :: read.1, read.2) := by
  have hskip : skipSpace (.char ' ' :: more) = more := skipSpace_of_opensValue hmore
  have hcomma : skipSpace (.char ',' :: .char ' ' :: more) = .char ',' :: .char ' ' :: more := rfl
  rw [readItems, h]
  cases long? with
  | none =>
      simp only [readBack, Except.bind, bind, hcomma, hskip]
      cases readItems fuel more with
      | error error => rfl
      | ok read => rfl
  | some count => rfl

theorem readMembers_name
    {fuel : Nat} {done : List (WideText × WideJson)} {name text : WideText}
    (hfuel : name.length < fuel) (htext : OpensValue text) :
    readMembers (fuel + 1) done (writeString name ++ .char ':' :: .char ' ' :: text) =
      (readValue fuel text).bind fun read =>
        match skipSpace read.2 with
        | .char ',' :: rest => readMembers fuel (putMember name read.1 done) (skipSpace rest)
        | .char '\x7d' :: rest => .ok (putMember name read.1 done, rest)
        | _ => .error .malformed := by
  have hname := readString_writeString name (.char ':' :: .char ' ' :: text) hfuel
  have hread : readValue fuel (skipSpace (.char ' ' :: text)) = readValue fuel text :=
    congrArg (readValue fuel) (skipSpace_of_opensValue htext)
  unfold writeString
  rw [List.append_assoc, List.cons_append, List.singleton_append, readMembers, hname]
  change (readValue fuel (skipSpace (.char ' ' :: text))).bind _ = _
  exact congrFun (congrArg Except.bind hread) _

theorem readMembers_last
    {fuel : Nat} {done : List (WideText × WideJson)} {name : WideText} {value : WideJson}
    {text rest : WideText} {long? : Option Nat}
    (hfuel : name.length < fuel) (htext : OpensValue text)
    (h : readValue fuel text = readBack long? (value, .char '\x7d' :: rest)) :
    readMembers (fuel + 1) done (writeString name ++ .char ':' :: .char ' ' :: text) =
      readBack long? (putMember name value done, rest) := by
  rw [readMembers_name hfuel htext, h]
  cases long? with
  | none => rfl
  | some count => rfl

theorem readMembers_next
    {fuel : Nat} {done : List (WideText × WideJson)} {name : WideText} {value : WideJson}
    {text more : WideText} {long? : Option Nat}
    (hfuel : name.length < fuel) (htext : OpensValue text)
    (h : readValue fuel text = readBack long? (value, .char ',' :: .char ' ' :: more))
    (hmore : OpensValue more) :
    readMembers (fuel + 1) done (writeString name ++ .char ':' :: .char ' ' :: text) =
      (readBack long? value).bind fun value =>
        readMembers fuel (putMember name value done) more := by
  have hskip : skipSpace (.char ' ' :: more) = more := skipSpace_of_opensValue hmore
  have hcomma : skipSpace (.char ',' :: .char ' ' :: more) = .char ',' :: .char ' ' :: more := rfl
  rw [readMembers_name hfuel htext, h]
  cases long? with
  | none => simp only [readBack, Except.bind, hcomma, hskip]
  | some count => rfl

/-!
## Texts of scalars
-/

theorem readValue_integer
    {fuel : Nat} {rest : WideText} (value : Int) (hrest : StopsNumber rest) :
    readValue (fuel + 1) (wide (integerText value) ++ rest) =
      readBack (longInteger? (.int value : WideJson)) (.int value, rest) := by
  have hopens : OpensNumber (integerText value) := by
    unfold integerText
    split
    · exact Or.inr ⟨_, rfl, opensWithDigit_decimalDigits _⟩
    · exact Or.inl (opensWithDigit_decimalDigits _)
  have hnumeral := readNumeral_integerText value endsNumber_nil
  rw [List.append_nil] at hnumeral
  rw [readValue_of_opensNumber fuel rest hopens]
  refine readNumber_of_readNumeral _ (numberChars_integerText value) hrest ?_
  rw [hnumeral, longInteger?]
  split
  · rfl
  · rfl

theorem readValue_binary
    {fuel : Nat} {rest : WideText} (value : Binary64) (hrest : StopsNumber rest) :
    readValue (fuel + 1) (wide (value.shortestText Binary64.documentLayout) ++ rest) =
      .ok (.float value, rest) := by
  cases value with
  | nan => rfl
  | signed negative size =>
      by_cases hfinite : size.isFinite = true
      · have hopens : OpensNumber
            (Binary64.shortestText Binary64.documentLayout (.signed negative size)) := by
          have hmagnitude := opensWithDigit_magnitudeText Binary64.documentLayout size
          simp only [Binary64.shortestText, hfinite, if_true]
          cases negative with
          | true => exact Or.inr ⟨_, rfl, hmagnitude⟩
          | false => exact Or.inl hmagnitude
        have hnumeral := readNumeral_shortestText Binary64.documentLayout negative hfinite
          endsNumber_nil
        rw [List.append_nil] at hnumeral
        rw [readValue_of_opensNumber fuel rest hopens]
        exact readNumber_of_readNumeral none (numberChars_shortestText _ negative hfinite) hrest
          hnumeral
      · have hinfinite : size = .infinite :=
          Magnitude.eq_infinite_of_not_isFinite (Bool.eq_false_iff.mpr hfinite)
        subst hinfinite
        cases negative with
        | true => rfl
        | false => rfl

/-!
## Items and members
-/

theorem opensValue_separate
    {item : WideText} (rest : List WideText) (h : OpensValue item) :
    OpensValue (separate (item :: rest)) := by
  cases rest with
  | nil => exact h
  | cons next rest => exact h.append _

theorem opensValue_writeString (text : WideText) :
    OpensValue (writeString text) :=
  ⟨'"', _, rfl, by decide⟩

mutual

/-- A written value is read back, with the length of its text as fuel. -/
theorem readValue_write
    (value : WideJson) (fuel : Nat) (rest : WideText) (hnames : NamesDistinct value)
    (hfuel : value.write.length ≤ fuel) (hrest : StopsNumber rest) :
    readValue fuel (value.write ++ rest) = readBack (longInteger? value) (value, rest) := by
  have hpositive : 1 ≤ value.write.length := by
    rcases opensValue_write value with ⟨c, more, hcons, _⟩
    rw [hcons, List.length_cons]
    omega
  cases fuel with
  | zero => omega
  | succ fuel =>
      cases value with
      | null => rfl
      | bool value =>
          cases value with
          | true => rfl
          | false => rfl
      | int value =>
          rw [write]
          exact readValue_integer value hrest
      | float value =>
          rw [write]
          exact readValue_binary value hrest
      | string value =>
          rw [write] at hfuel ⊢
          have hlength := length_writeString value
          have hread := @readString_writeString fuel value rest (by omega)
          rw [writeString, List.append_assoc, List.cons_append, List.singleton_append, readValue,
            hread]
          rfl
      | array items =>
          cases items with
          | nil => rfl
          | cons item items =>
              rw [NamesDistinct] at hnames
              rw [write] at hfuel ⊢
              simp only [List.length_append, List.length_cons, List.length_nil] at hfuel
              have hopens : OpensValue (separate (writeItems (item :: items))) :=
                opensValue_separate _ (opensValue_write item)
              have hread := readItems_write item items fuel rest hnames (by omega)
              rw [List.cons_append, List.cons_append, List.append_assoc, List.singleton_append,
                readValue_array fuel (hopens.append _), hread, readBack_map, longInteger?]
      | object members =>
          cases members with
          | nil => rfl
          | cons entry members =>
              rw [NamesDistinct] at hnames
              rw [write] at hfuel ⊢
              simp only [List.length_append, List.length_cons, List.length_nil] at hfuel
              have hopens : OpensValue (separate (writeMembers (entry :: members))) :=
                opensValue_separate _ ((opensValue_writeString _).append _)
              have hread := readMembers_write entry members fuel [] rest hnames.1 hnames.2
                (by omega)
              rw [List.cons_append, List.cons_append, List.append_assoc, List.singleton_append,
                readValue_object fuel (hopens.append _), hread, readBack_map, longInteger?,
                List.nil_append]
termination_by fuel

theorem readItems_write
    (item : WideJson) (items : List WideJson) (fuel : Nat) (rest : WideText)
    (hnames : ItemsDistinct (item :: items))
    (hfuel : (separate (writeItems (item :: items))).length < fuel) :
    readItems fuel (separate (writeItems (item :: items)) ++ .char ']' :: rest) =
      readBack (longInItems? (item :: items)) (item :: items, rest) := by
  rw [ItemsDistinct] at hnames
  cases fuel with
  | zero => omega
  | succ fuel =>
      cases items with
      | nil =>
          simp only [writeItems, separate] at hfuel ⊢
          have hvalue := readValue_write item fuel (.char ']' :: rest) hnames.1 (by omega)
            (stopsNumber_cons rest (by decide))
          rw [readItems_last hvalue, longInItems?_cons, longInItems?, Option.or_none]
      | cons next items =>
          have hparts : separate (writeItems (item :: next :: items)) =
              item.write ++ .char ',' :: .char ' ' :: separate (writeItems (next :: items)) := rfl
          rw [hparts] at hfuel ⊢
          simp only [List.length_append, List.length_cons] at hfuel
          have hopens : OpensValue (separate (writeItems (next :: items))) :=
            opensValue_separate _ (opensValue_write next)
          have hmore := readItems_write next items fuel rest hnames.2 (by omega)
          have hvalue := readValue_write item fuel
            (.char ',' :: .char ' ' :: (separate (writeItems (next :: items)) ++ .char ']' :: rest))
            hnames.1 (by omega) (stopsNumber_cons _ (by decide))
          rw [List.append_assoc, List.cons_append, List.cons_append,
            readItems_next hvalue (hopens.append _), hmore, longInItems?_cons item]
          exact readBack_bind (readBack_map _ _ _)
termination_by fuel

theorem readMembers_write
    (entry : WideText × WideJson) (members : List (WideText × WideJson)) (fuel : Nat)
    (done : List (WideText × WideJson)) (rest : WideText)
    (hnodup : ((done ++ entry :: members).map Prod.fst).Nodup)
    (hnames : MembersDistinct (entry :: members))
    (hfuel : (separate (writeMembers (entry :: members))).length < fuel) :
    readMembers fuel done (separate (writeMembers (entry :: members)) ++ .char '\x7d' :: rest) =
      readBack (longInMembers? (entry :: members)) (done ++ entry :: members, rest) := by
  rcases entry with ⟨name, value⟩
  rw [MembersDistinct] at hnames
  have hnew : name ∉ done.map Prod.fst := by
    rw [List.map_append, List.map_cons, List.nodup_append] at hnodup
    intro hmem
    exact hnodup.2.2 name hmem name List.mem_cons_self rfl
  have hname := length_writeString name
  cases fuel with
  | zero => omega
  | succ fuel =>
      cases members with
      | nil =>
          have hparts : separate (writeMembers [(name, value)]) =
              writeString name ++ .char ':' :: .char ' ' :: value.write := rfl
          rw [hparts] at hfuel ⊢
          simp only [List.length_append, List.length_cons] at hfuel
          have hvalue := readValue_write value fuel (.char '\x7d' :: rest) hnames.1 (by omega)
            (stopsNumber_cons rest (by decide))
          rw [List.append_assoc, List.cons_append, List.cons_append,
            readMembers_last (by omega) ((opensValue_write value).append _) hvalue,
            putMember_new hnew, longInMembers?_cons, longInMembers?, Option.or_none]
      | cons next members =>
          have hparts : separate (writeMembers ((name, value) :: next :: members)) =
              (writeString name ++ .char ':' :: .char ' ' :: value.write) ++
                .char ',' :: .char ' ' :: separate (writeMembers (next :: members)) := rfl
          rw [hparts] at hfuel ⊢
          simp only [List.length_append, List.length_cons] at hfuel
          have hopens : OpensValue
              (separate (writeMembers (next :: members)) ++ .char '\x7d' :: rest) :=
            (opensValue_separate _ ((opensValue_writeString _).append _)).append _
          have hnodupMore :
              (((done ++ [(name, value)]) ++ next :: members).map Prod.fst).Nodup := by
            simpa using hnodup
          have hmore := readMembers_write next members fuel (done ++ [(name, value)]) rest
            hnodupMore hnames.2 (by omega)
          have hvalue := readValue_write value fuel
            (.char ',' :: .char ' ' ::
              (separate (writeMembers (next :: members)) ++ .char '\x7d' :: rest))
            hnames.1 (by omega) (stopsNumber_cons _ (by decide))
          rw [List.append_assoc, List.append_assoc, List.cons_append, List.cons_append,
            List.cons_append, List.cons_append,
            readMembers_next (by omega) ((opensValue_write value).append _) hvalue hopens,
            longInMembers?_cons]
          apply readBack_bind
          rw [putMember_new hnew, hmore, List.append_assoc, List.singleton_append]
termination_by fuel

end

/-- The text of a value is read back as the value. -/
theorem read_write
    {value : WideJson} (hnames : NamesDistinct value) :
    read value.write = readBack (longInteger? value) value := by
  have hskip := skipSpace_of_opensValue (opensValue_write value)
  have hvalue := readValue_write value (value.write.length + 1) [] hnames (by omega)
    stopsNumber_nil
  rw [List.append_nil] at hvalue
  unfold read
  rw [hskip, hvalue]
  cases longInteger? value with
  | none => rfl
  | some count => rfl

end WideJson

end CatalogSearch
