import CatalogSearch.Proofs.Cache.Kept

/-!
# Runs of a remote store

A remote store behaves like a map from keys to what their bytes are read as.  Outages begin and
end between any two steps, other writers put bytes under any key, and a run of such steps shows
what the same run over the map shows.  A payload with a lone surrogate has no bytes: with the
store in reach it raises, and nothing changes.  A run is a list of steps, the latest first.
-/

namespace CatalogSearch

open Document WideJson

structure Payload where
  members : List (WideText × WideJson)
  namesDistinct : NamesDistinct (.object members)
  short : longInteger? (.object members : WideJson) = none

namespace Payload

def json (payload : Payload) : WideJson :=
  .object payload.members

def error? (payload : Payload) : Option EncodeError :=
  match Text.encode payload.json.write with
  | .ok _ => none
  | .error error => some error

/-- A payload has bytes exactly if no lone surrogate stands in its names and texts. -/
theorem error?_eq_none_iff {payload : Payload} :
    payload.error? = none <-> payload.json.IsPlain := by
  rw [← isPlain_write]
  unfold error?
  by_cases hplain : Text.IsPlain payload.json.write
  · rw [Text.encode_of_isPlain hplain]
    exact iff_of_true rfl hplain
  · rcases Text.encode_of_not_isPlain hplain with ⟨error, herror⟩
    rw [herror]
    exact iff_of_false (Option.some_ne_none error) hplain

theorem encode_of_error?_eq_none {payload : Payload} (h : payload.error? = none) :
    exists bytes, Text.encode payload.json.write = .ok bytes := by
  cases hencode : Text.encode payload.json.write with
  | ok bytes => exact ⟨bytes, rfl⟩
  | error error =>
      rw [error?, hencode] at h
      cases h

theorem encode_of_error?_eq_some {payload : Payload} {error : EncodeError}
    (h : payload.error? = some error) : Text.encode payload.json.write = .error error := by
  cases hencode : Text.encode payload.json.write with
  | ok bytes =>
      rw [error?, hencode] at h
      cases h
  | error other =>
      rw [error?, hencode] at h
      rw [Option.some.inj h]

end Payload

inductive RemoteStep
  | set (key : String) (payload : Payload) (ttl : Int)
  | get (key : String)
  | clear
  | put (key : String) (value : StoredBytes)
  | switch (outage : Option String)

namespace RemoteStep

def LeavesKey (key : String) : RemoteStep -> Prop
  | set other _ _ => other ≠ key
  | put other _ => other ≠ key
  | clear => ¬ Cache.IsOwn key
  | get _ => True
  | switch _ => True

def failure? (reason : String) : RemoteStep -> Option Warning
  | set key _ _ => some (.writeFailed key reason)
  | get key => some (.readFailed key reason)
  | clear => some (.clearFailed reason)
  | put _ _ => none
  | switch _ => none

end RemoteStep

namespace RemoteStore

def step (store : RemoteStore) :
    RemoteStep -> Reported (Except EncodeError (Option WideJson) × RemoteStore)
  | .set key payload ttl => (store.set key payload.json ttl).map fun stored =>
      match stored with
      | .ok after => (.ok none, after)
      | .error error => (.error error, store)
  | .get key => (store.get key).map fun found => (.ok found, store)
  | .clear => store.clear.map fun after => (.ok none, after)
  | .put key value => .plain (.ok none, store.put key value)
  | .switch outage => .plain (.ok none, { store with outage := outage })

def after (store : RemoteStore) : List RemoteStep -> RemoteStore
  | [] => store
  | step :: earlier => ((store.after earlier).step step).value.2

def outcomes (store : RemoteStore) :
    List RemoteStep -> List (Reported (Except EncodeError (Option WideJson)))
  | [] => []
  | step :: earlier => ((store.after earlier).step step).map (·.1) :: store.outcomes earlier

end RemoteStore

/-!
## The map
-/

inductive HeldValue
  | response (value : WideJson)
  | noResponse
  | unreadable

namespace HeldValue

def ofBytes (bytes : ByteArray) : HeldValue :=
  match RemoteStore.decode bytes with
  | none => unreadable
  | some (.object members) => response (.object members)
  | some _ => noResponse

def shown (key : String) : Option HeldValue -> Reported (Option WideJson)
  | none => .plain none
  | some (response value) => .plain (some value)
  | some noResponse => .plain none
  | some unreadable => ⟨none, [.undecodableEntry key]⟩

end HeldValue

structure OutageMap where
  held : String -> Option HeldValue
  outage : Option String

namespace OutageMap

def update (map : OutageMap) (key : String) (value : HeldValue) : OutageMap :=
  { map with held := fun other => if other = key then some value else map.held other }

def withoutOwn (map : OutageMap) : OutageMap :=
  { map with held := fun key =>
      if Text.startsWith Cache.keyMark.toList key.toList then none else map.held key }

/-- What a call shows or raises, and the map after it. -/
abbrev Answer := Reported (Except EncodeError (Option WideJson) × OutageMap)

def call (map : OutageMap) (report : String -> Warning) (answer : Answer) : Answer :=
  match map.outage with
  | some reason => ⟨(.ok none, map), [report reason]⟩
  | none => answer

def store (map : OutageMap) (key : String) (payload : Payload) : Answer :=
  match payload.error? with
  | some error => .plain (.error error, map)
  | none => .plain (.ok none, map.update key (.response payload.json))

def step (map : OutageMap) : RemoteStep -> Answer
  | .set key payload _ => map.call (.writeFailed key) (map.store key payload)
  | .get key =>
      map.call (.readFailed key)
        ((HeldValue.shown key (map.held key)).map fun found => (.ok found, map))
  | .clear => map.call .clearFailed (.plain (.ok none, map.withoutOwn))
  | .put key value => .plain (.ok none, map.update key (.ofBytes value.bytes))
  | .switch outage => .plain (.ok none, { map with outage := outage })

def after (map : OutageMap) : List RemoteStep -> OutageMap
  | [] => map
  | step :: earlier => ((map.after earlier).step step).value.2

def outcomes (map : OutageMap) :
    List RemoteStep -> List (Reported (Except EncodeError (Option WideJson)))
  | [] => []
  | step :: earlier => ((map.after earlier).step step).map (·.1) :: map.outcomes earlier

end OutageMap

namespace RemoteStore

def toMap (store : RemoteStore) : OutageMap :=
  ⟨fun key => (store.bytes? key).map HeldValue.ofBytes, store.outage⟩

/-!
## One step

Each call of the store does to the map what the call of the map does.
-/

theorem toMap_put (store : RemoteStore) (key : String) (value : StoredBytes) :
    (store.put key value).toMap = store.toMap.update key (.ofBytes value.bytes) := by
  unfold toMap OutageMap.update
  congr 1
  funext other
  by_cases hother : other = key
  · rw [if_pos hother, hother, bytes?_put, Option.map_some]
  · rw [if_neg hother, bytes?_put_of_ne store value hother]

theorem bytes?_withoutOwn (store : RemoteStore) (key : String) :
    store.withoutOwn.bytes? key =
      if Text.startsWith Cache.keyMark.toList key.toList then none else store.bytes? key := by
  have hlookup := lookup_filter_keys store.entries
    (fun name => !Text.startsWith Cache.keyMark.toList name.toList) key
  unfold bytes? withoutOwn
  dsimp only at hlookup ⊢
  rw [hlookup]
  cases Text.startsWith Cache.keyMark.toList key.toList <;> rfl

theorem toMap_withoutOwn (store : RemoteStore) :
    store.withoutOwn.toMap = store.toMap.withoutOwn := by
  unfold toMap OutageMap.withoutOwn
  congr 1
  funext key
  rw [bytes?_withoutOwn]
  split <;> rfl

theorem ofBytes_payload {payload : Payload} {bytes : ByteArray}
    (h : Text.encode payload.json.write = .ok bytes) :
    HeldValue.ofBytes bytes = .response payload.json := by
  have hdecode := decode_object payload.namesDistinct h
  rw [payload.short] at hdecode
  have hsome : decode bytes = some (.object payload.members) := hdecode
  rw [HeldValue.ofBytes, hsome]
  rfl

theorem decodeResponse_eq_shown (key : String) (bytes : ByteArray) :
    decodeResponse key bytes = HeldValue.shown key (some (.ofBytes bytes)) := by
  unfold decodeResponse HeldValue.ofBytes
  cases decode bytes with
  | none => rfl
  | some value => cases value <;> rfl

theorem get_eq_shown {store : RemoteStore} (h : store.outage = none) (key : String) :
    store.get key = HeldValue.shown key (store.toMap.held key) := by
  unfold get toMap
  rw [h]
  dsimp only
  cases store.bytes? key with
  | none => rfl
  | some bytes => exact decodeResponse_eq_shown key bytes

theorem set_of_reach {store : RemoteStore} (h : store.outage = none) (key : String)
    (payload : WideJson) (ttl : Int) :
    store.set key payload ttl =
      .plain ((Text.encode payload.write).map fun bytes =>
        store.put key ⟨bytes, some (max ttl 1)⟩) := by
  unfold set
  rw [h]

theorem step_set_of_raises {store : RemoteStore} {payload : Payload} {error : EncodeError}
    (hreach : store.outage = none) (herror : payload.error? = some error) (key : String)
    (ttl : Int) : store.step (.set key payload ttl) = .plain (.error error, store) := by
  rw [step, set_of_reach hreach, Payload.encode_of_error?_eq_some herror]
  rfl

theorem step_set_of_encode {store : RemoteStore} {payload : Payload} {bytes : ByteArray}
    (hreach : store.outage = none) (hbytes : Text.encode payload.json.write = .ok bytes)
    (key : String) (ttl : Int) :
    store.step (.set key payload ttl) =
      .plain (.ok none, store.put key ⟨bytes, some (max ttl 1)⟩) := by
  rw [step, set_of_reach hreach, hbytes]
  rfl

theorem clear_of_reach {store : RemoteStore} (h : store.outage = none) :
    store.clear = .plain store.withoutOwn := by
  unfold clear
  rw [h]

theorem step_of_outage {store : RemoteStore} {reason : String} {step : RemoteStep}
    {report : Warning} (houtage : store.outage = some reason)
    (hcall : step.failure? reason = some report) :
    store.step step = ⟨(.ok none, store), [report]⟩ := by
  cases step with
  | set key payload ttl =>
      rw [← Option.some.inj hcall, RemoteStore.step, set, houtage]
      rfl
  | get key =>
      rw [← Option.some.inj hcall, RemoteStore.step, get, houtage]
      rfl
  | clear =>
      rw [← Option.some.inj hcall, RemoteStore.step, clear, houtage]
      rfl
  | put key value => cases hcall
  | switch outage => cases hcall

theorem toMap_step_of_outage {map : OutageMap} {reason : String} {step : RemoteStep}
    {report : Warning} (houtage : map.outage = some reason)
    (hcall : step.failure? reason = some report) :
    map.step step = ⟨(.ok none, map), [report]⟩ := by
  cases step with
  | set key payload ttl =>
      rw [← Option.some.inj hcall, OutageMap.step, OutageMap.call, houtage]
  | get key =>
      rw [← Option.some.inj hcall, OutageMap.step, OutageMap.call, houtage]
  | clear =>
      rw [← Option.some.inj hcall, OutageMap.step, OutageMap.call, houtage]
  | put key value => cases hcall
  | switch outage => cases hcall

theorem call_of_reach {map : OutageMap} (h : map.outage = none) (report : String -> Warning)
    (answer : OutageMap.Answer) : map.call report answer = answer := by
  unfold OutageMap.call
  rw [h]

theorem step_toMap_of_outage {store : RemoteStore} {reason : String} {step : RemoteStep}
    {report : Warning} (houtage : store.outage = some reason)
    (hcall : step.failure? reason = some report) :
    (store.step step).map (fun shown => (shown.1, shown.2.toMap)) = store.toMap.step step := by
  rw [step_of_outage houtage hcall, toMap_step_of_outage houtage hcall]
  rfl

theorem step_toMap (store : RemoteStore) (step : RemoteStep) :
    (store.step step).map (fun shown => (shown.1, shown.2.toMap)) = store.toMap.step step := by
  cases step with
  | put key value =>
      rw [RemoteStore.step, OutageMap.step, ← toMap_put]
      rfl
  | switch outage => rfl
  | set key payload ttl =>
      cases houtage : store.outage with
      | some reason => exact step_toMap_of_outage houtage rfl
      | none =>
          rw [OutageMap.step, call_of_reach houtage, OutageMap.store]
          cases herror : payload.error? with
          | some error =>
              rw [step_set_of_raises houtage herror]
              rfl
          | none =>
              rcases Payload.encode_of_error?_eq_none herror with ⟨bytes, hbytes⟩
              rw [step_set_of_encode houtage hbytes, ← ofBytes_payload hbytes,
                ← toMap_put store key ⟨bytes, some (max ttl 1)⟩]
              rfl
  | get key =>
      cases houtage : store.outage with
      | some reason => exact step_toMap_of_outage houtage rfl
      | none =>
          rw [RemoteStore.step, get_eq_shown houtage, OutageMap.step, call_of_reach houtage]
          rfl
  | clear =>
      cases houtage : store.outage with
      | some reason => exact step_toMap_of_outage houtage rfl
      | none =>
          rw [RemoteStore.step, clear_of_reach houtage, OutageMap.step, call_of_reach houtage,
            ← toMap_withoutOwn]
          rfl

/-!
## Whole runs
-/

theorem toMap_after (store : RemoteStore) (run : List RemoteStep) :
    (store.after run).toMap = store.toMap.after run := by
  induction run with
  | nil => rfl
  | cons step earlier ih =>
      rw [after, OutageMap.after, ← ih, ← step_toMap]
      rfl

theorem outcomes_toMap (store : RemoteStore) (run : List RemoteStep) :
    store.outcomes run = store.toMap.outcomes run := by
  induction run with
  | nil => rfl
  | cons step earlier ih =>
      rw [outcomes, OutageMap.outcomes, ← ih, ← toMap_after, ← step_toMap]
      rfl

theorem held_step {map : OutageMap} {key : String} {step : RemoteStep} (h : step.LeavesKey key) :
    (map.step step).value.2.held key = map.held key := by
  have hcall : forall (report : String -> Warning) (answer : OutageMap.Answer),
      answer.value.2.held key = map.held key ->
        (map.call report answer).value.2.held key = map.held key := by
    intro report answer hanswer
    unfold OutageMap.call
    split
    · rfl
    · exact hanswer
  cases step with
  | set other payload ttl =>
      refine hcall _ _ ?_
      unfold OutageMap.store
      split
      · rfl
      · exact if_neg (Ne.symm h)
  | get other => exact hcall _ _ rfl
  | clear => exact hcall _ _ (if_neg h)
  | put other value => exact if_neg (Ne.symm h)
  | switch outage => rfl

theorem held_after {map : OutageMap} {key : String} {later : List RemoteStep}
    (h : forall step : RemoteStep, step ∈ later -> step.LeavesKey key)
    (earlier : List RemoteStep) :
    (map.after (later ++ earlier)).held key = (map.after earlier).held key := by
  induction later with
  | nil => rfl
  | cons step later ih =>
      rw [List.cons_append, OutageMap.after, held_step (h step List.mem_cons_self)]
      exact ih fun other hmem => h other (List.mem_cons_of_mem step hmem)

theorem get_after_set {store : RemoteStore} {key : String} {later : List RemoteStep}
    {payload : Payload} (ttl : Int) (hplain : payload.json.IsPlain) (hset : store.outage = none)
    (hlater : forall step : RemoteStep, step ∈ later -> step.LeavesKey key)
    (hreach : (store.after (later ++ [.set key payload ttl])).outage = none) :
    (store.after (later ++ [.set key payload ttl])).get key = .plain (some payload.json) := by
  have hheld : (store.after (later ++ [.set key payload ttl])).toMap.held key =
      some (.response payload.json) := by
    rw [toMap_after, held_after hlater, OutageMap.after, OutageMap.after, OutageMap.step,
      call_of_reach hset, OutageMap.store, Payload.error?_eq_none_iff.mpr hplain]
    exact if_pos rfl
  rw [get_eq_shown hreach, hheld]
  rfl

theorem get_of_noObject {store : RemoteStore} {key : String} {bytes : ByteArray}
    (hreach : store.outage = none) (hbytes : store.bytes? key = some bytes)
    (hobject : forall members, decode bytes ≠ some (.object members)) :
    (store.get key).value = none := by
  have hheld : store.toMap.held key = some (.ofBytes bytes) := by
    show (store.bytes? key).map HeldValue.ofBytes = _
    rw [hbytes, Option.map_some]
  rw [get_eq_shown hreach, hheld, HeldValue.ofBytes]
  cases hdecode : decode bytes with
  | none => rfl
  | some value =>
      cases value with
      | object members => exact absurd hdecode (hobject members)
      | _ => rfl

theorem mem_withoutOwn_iff {store : RemoteStore} {entry : String × StoredBytes} :
    entry ∈ store.withoutOwn.entries <-> entry ∈ store.entries ∧ ¬ Cache.IsOwn entry.1 := by
  unfold withoutOwn Cache.IsOwn
  rw [List.mem_filter, Bool.not_eq_true', Bool.not_eq_true]

/-- A call raises exactly if it puts a payload with a lone surrogate into a store in reach. -/
theorem raises_iff {store : RemoteStore} {step : RemoteStep} :
    (exists error, (store.step step).value.1 = .error error) <->
      exists key payload ttl, step = .set key payload ttl ∧ store.outage = none ∧
        ¬ payload.json.IsPlain := by
  constructor
  · rintro ⟨error, herror⟩
    cases step with
    | set key payload ttl =>
        cases houtage : store.outage with
        | some reason =>
            rw [step_of_outage houtage rfl] at herror
            cases herror
        | none =>
            refine ⟨key, payload, ttl, rfl, rfl, fun hplain => ?_⟩
            rcases Payload.encode_of_error?_eq_none (Payload.error?_eq_none_iff.mpr hplain) with
              ⟨bytes, hbytes⟩
            rw [step_set_of_encode houtage hbytes] at herror
            cases herror
    | get key => cases herror
    | clear => cases herror
    | put key value => cases herror
    | switch outage => cases herror
  · rintro ⟨key, payload, ttl, rfl, hreach, hnot⟩
    cases herror : payload.error? with
    | none => exact absurd (Payload.error?_eq_none_iff.mp herror) hnot
    | some error => exact ⟨error, by rw [step_set_of_raises hreach herror]; rfl⟩

theorem step_of_raises {store : RemoteStore} {step : RemoteStep} {error : EncodeError}
    (h : (store.step step).value.1 = .error error) :
    store.step step = .plain (.error error, store) := by
  rcases raises_iff.mp ⟨error, h⟩ with ⟨key, payload, ttl, rfl, hreach, hnot⟩
  cases herror : payload.error? with
  | none => exact absurd (Payload.error?_eq_none_iff.mp herror) hnot
  | some other =>
      rw [step_set_of_raises hreach herror] at h ⊢
      injection h with heq
      rw [heq]

/-- What a store in reach or out of reach does in any run. -/
structure RefinesOutageMap (store : RemoteStore) : Prop where
  /-- A run shows what it shows over the map, and leaves what it leaves of the map. -/
  shows_as_map : forall run : List RemoteStep,
    store.outcomes run = store.toMap.outcomes run ∧
      (store.after run).toMap = store.toMap.after run
  /-- Out of reach, a call is reported, finds nothing and leaves the store as it is. -/
  reports : forall (reason : String) (step : RemoteStep) (report : Warning),
    store.outage = some reason -> step.failure? reason = some report ->
      store.step step = ⟨(.ok none, store), [report]⟩
  /-- Nothing raises but a payload with a lone surrogate, in reach, and then nothing changes. -/
  raises_iff : forall step : RemoteStep,
    (exists error, store.step step = .plain (.error error, store)) <->
      exists key payload ttl, step = .set key payload ttl ∧ store.outage = none ∧
        ¬ payload.json.IsPlain
  raises_plainly : forall (step : RemoteStep) (error : EncodeError),
    (store.step step).value.1 = .error error -> store.step step = .plain (.error error, store)
  /-- A payload is found as it was set until its key is written or removed. -/
  found_as_set : forall (key : String) (payload : Payload) (ttl : Int) (later : List RemoteStep),
    store.outage = none -> payload.json.IsPlain ->
      (forall step : RemoteStep, step ∈ later -> step.LeavesKey key) ->
        (store.after (later ++ [.set key payload ttl])).outage = none ->
          (store.after (later ++ [.set key payload ttl])).step (.get key) =
            .plain (.ok (some payload.json), store.after (later ++ [.set key payload ttl]))
  /-- Bytes that are no object are no response and stay. -/
  no_object : forall (key : String) (bytes : ByteArray),
    store.outage = none -> store.bytes? key = some bytes ->
      (forall members, decode bytes ≠ some (.object members)) ->
        (store.step (.get key)).value = (.ok none, store)
  /-- The keys of this service are removed and no others. -/
  clears_own : store.outage = none ->
    exists after : RemoteStore, store.step .clear = .plain (.ok none, after) ∧
      after.outage = none ∧
      forall entry : String × StoredBytes,
        entry ∈ after.entries <-> entry ∈ store.entries ∧ ¬ Cache.IsOwn entry.1

/-- A store behaves in every run like a map with outages. -/
theorem refines_outageMap (store : RemoteStore) : RefinesOutageMap store := by
  constructor
  · intro run
    exact ⟨outcomes_toMap store run, toMap_after store run⟩
  · intro reason step report houtage hcall
    exact step_of_outage houtage hcall
  · intro step
    rw [← raises_iff]
    constructor
    · rintro ⟨error, herror⟩
      exact ⟨error, by rw [herror]; rfl⟩
    · rintro ⟨error, herror⟩
      exact ⟨error, step_of_raises herror⟩
  · intro step error herror
    exact step_of_raises herror
  · intro key payload ttl later hset hplain hlater hreach
    rw [RemoteStore.step, get_after_set ttl hplain hset hlater hreach]
    rfl
  · intro key bytes hreach hbytes hobject
    rw [RemoteStore.step, Reported.map_value, get_of_noObject hreach hbytes hobject]
  · intro hreach
    refine ⟨store.withoutOwn, ?_, hreach, fun _ => mem_withoutOwn_iff⟩
    rw [RemoteStore.step, clear_of_reach hreach]
    rfl

def nestedFields : List (String × Json) :=
  [("totalResults", .int (10 ^ 40)),
    ("items", .array [.object [("name", .string "Lampe \"étoile\" 灯")], .null])]

def nestedPayload : Payload :=
  { members := mapMembers (fun text => Text.wide text.toList) nestedFields
    namesDistinct := namesDistinct_wide
      (by simp [nestedFields, NamesDistinct, MembersDistinct, ItemsDistinct])
    short := (longInteger?_wide nestedFields).trans (by decide) }

def sharedStore : RemoteStore :=
  { entries := [("other-app:1", ⟨"\x7b\x7d".toUTF8, none⟩),
      ("product-search:bad", ⟨"not json".toUTF8, none⟩)] }

def laterSteps : List RemoteStep :=
  [.switch none, .get "product-search:a", .switch (some "connection refused"),
    .put "other-app:2" ⟨"1".toUTF8, none⟩]

theorem refines_outageMap_sharedStore :
    (sharedStore.outcomes (.get "product-search:a" ::
          (laterSteps ++ [.set "product-search:a" nestedPayload 30])) =
        sharedStore.toMap.outcomes (.get "product-search:a" ::
          (laterSteps ++ [.set "product-search:a" nestedPayload 30]))) ∧
      ((sharedStore.after [.switch (some "connection refused")]).step .clear =
        ⟨(.ok none, sharedStore.after [.switch (some "connection refused")]),
          [.clearFailed "connection refused"]⟩) ∧
      (sharedStore.after (laterSteps ++ [.set "product-search:a" nestedPayload 30])).step
          (.get "product-search:a") =
        .plain (.ok (some nestedPayload.json),
          sharedStore.after (laterSteps ++ [.set "product-search:a" nestedPayload 30])) ∧
      (sharedStore.step (.get "product-search:bad")).value = (.ok none, sharedStore) ∧
      exists after : RemoteStore, sharedStore.step .clear = .plain (.ok none, after) ∧
        after.outage = none ∧
        forall entry : String × StoredBytes,
          entry ∈ after.entries <-> entry ∈ sharedStore.entries ∧ ¬ Cache.IsOwn entry.1 := by
  have hlater : forall step : RemoteStep, step ∈ laterSteps ->
      step.LeavesKey "product-search:a" := by
    simp [laterSteps, RemoteStep.LeavesKey]
  have hplain : nestedPayload.json.IsPlain := Json.isPlain_wide (.object nestedFields)
  have hreach : (sharedStore.after
      (laterSteps ++ [.set "product-search:a" nestedPayload 30])).outage = none := by
    rfl
  have hbad : (decode "not json".toUTF8).isNone = true := by decide +kernel
  have hobject : forall members, decode "not json".toUTF8 ≠ some (.object members) := by
    intro members hsome
    rw [hsome] at hbad
    cases hbad
  have hstore := refines_outageMap sharedStore
  have hdown := refines_outageMap (sharedStore.after [.switch (some "connection refused")])
  exact ⟨(hstore.shows_as_map _).1, hdown.reports "connection refused" .clear _ rfl rfl,
    hstore.found_as_set "product-search:a" nestedPayload 30 laterSteps rfl hplain hlater hreach,
    hstore.no_object "product-search:bad" "not json".toUTF8 rfl rfl hobject,
    hstore.clears_own rfl⟩

def halfPayload : Payload :=
  { members := [(Text.wide "name".toList, .string [.surrogate 0])]
    namesDistinct := by simp [NamesDistinct, MembersDistinct]
    short := rfl }

/-- It raises, and is not found afterwards. -/
theorem not_found_halfPayload :
    (step {} (.set "product-search:a" halfPayload 30)).value.1 = .error ⟨0, 10, 1⟩ ∧
      (after {} [.set "product-search:a" halfPayload 30]).outage = none ∧
      ((after {} [.set "product-search:a" halfPayload 30]).step
        (.get "product-search:a")).value.1 ≠ .ok (some halfPayload.json) := by
  refine ⟨?_, ?_, ?_⟩
  · rfl
  · rfl
  · intro heq
    injection heq with hfound
    cases hfound

end RemoteStore

end CatalogSearch
