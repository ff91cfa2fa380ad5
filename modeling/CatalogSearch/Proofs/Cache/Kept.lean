import CatalogSearch.Cache.Backend
import CatalogSearch.Proofs.Cache.StoredResponse
import CatalogSearch.Proofs.Number.Range
import CatalogSearch.Proofs.Text.Occurrence

/-!
# Kept responses

A property of the responses kept under the keys of this service holds on through every
operation of a backend, as long as what is put in has it; and a response that is found has it.
-/

namespace CatalogSearch

namespace Cache

def IsOwn (key : String) : Prop :=
  Text.startsWith keyMark.toList key.toList = true

theorem isOwn_key (parts : List Json) :
    IsOwn (key parts) := by
  unfold IsOwn key
  rw [String.toList_append, Text.startsWith_iff_isPrefix]
  exact List.prefix_append _ _

end Cache

def StoreError.ofSpan? : Except NumberError Binary64 -> Option StoreError
  | .ok _ => none
  | .error cause => some (.time cause)

namespace Backend

open Document

def KeepsOnly (property : String -> Json -> Prop) : Backend -> Prop
  | none => True
  | memory cache =>
      forall entry : CacheEntry Json, entry ∈ cache.entries -> property entry.key entry.payload
  | remote store =>
      forall entry : String × StoredBytes, entry ∈ store.entries -> Cache.IsOwn entry.1 ->
        exists response, property entry.1 response ∧ entry.2.bytes = response.toText.toUTF8

variable {property : String -> Json -> Prop}

def refusal? (ttl : Int) : Backend -> Option StoreError
  | memory _ => StoreError.ofSpan? (Json.binaryOfInteger ttl)
  | _ => Option.none

/-- A time is refused only in memory, and only if it is beyond every number. -/
theorem refusal?_eq_some_iff {backend : Backend} {ttl : Int} {error : StoreError} :
    backend.refusal? ttl = some error <->
      (exists cache, backend = memory cache) ∧ Magnitude.overflow ≤ ttl.natAbs ∧
        error = .time .integerTooLarge := by
  cases backend with
  | none => simp [refusal?]
  | remote store => simp [refusal?]
  | memory cache =>
      rw [refusal?]
      cases hspan : Json.binaryOfInteger ttl with
      | ok span =>
          have hnot : ¬ Magnitude.overflow ≤ ttl.natAbs := by
            intro hle
            cases hspan.symm.trans (Json.binaryOfInteger_eq_error_iff.mpr ⟨hle, rfl⟩)
          simp [StoreError.ofSpan?, hnot]
      | error cause =>
          rcases Json.binaryOfInteger_eq_error_iff.mp hspan with ⟨hle, rfl⟩
          simp [StoreError.ofSpan?, hle, eq_comm]

theorem set_memory (cache : MemoryCache Json) {ttl : Int} (now : Binary64) (key : String)
    (response : Json) (h : (memory cache).refusal? ttl = Option.none) :
    exists span : Binary64,
      ((memory cache).set now key response ttl).value =
        .ok (memory (cache.set now key response span)) := by
  rw [refusal?] at h
  rw [Backend.set]
  cases hspan : Json.binaryOfInteger ttl with
  | error cause =>
      rw [hspan] at h
      cases h
  | ok span => exact ⟨span, rfl⟩

theorem set_of_refusal {backend : Backend} {ttl : Int} {error : StoreError} (now : Binary64)
    (key : String) (response : Json) (h : backend.refusal? ttl = some error) :
    (backend.set now key response ttl).value = .error error := by
  cases backend with
  | none => cases h
  | remote store => cases h
  | memory cache =>
      rw [refusal?] at h
      rw [Backend.set]
      cases hspan : Json.binaryOfInteger ttl with
      | ok span =>
          rw [hspan] at h
          cases h
      | error cause =>
          rw [hspan] at h
          exact congrArg Except.error (Option.some.inj h)

theorem KeepsOnly.mono
    {other : String -> Json -> Prop} {backend : Backend} (hkeeps : backend.KeepsOnly property)
    (h : forall (key : String) (response : Json), property key response -> other key response) :
    backend.KeepsOnly other := by
  cases backend with
  | none => exact True.intro
  | memory cache =>
      intro entry hmem
      exact h _ _ (hkeeps entry hmem)
  | remote store =>
      intro entry hmem hown
      rcases hkeeps entry hmem hown with ⟨response, hproperty, hbytes⟩
      exact ⟨response, h _ _ hproperty, hbytes⟩

/-!
## Operations in memory
-/

theorem mem_of_mem_others
    {cache : MemoryCache Json} {key : String} {entry : CacheEntry Json}
    (h : entry ∈ cache.others key) :
    entry ∈ cache.entries :=
  (List.mem_filter.mp h).1

theorem keepsOnly_memory_get
    {cache : MemoryCache Json} (now : Binary64) (key : String)
    (hkeeps : (memory cache).KeepsOnly property) :
    (memory (cache.get now key).2).KeepsOnly property ∧
      forall response : Json, (cache.get now key).1 = some response -> property key response := by
  unfold MemoryCache.get
  cases hfind : cache.find? key with
  | none =>
      constructor
      · exact hkeeps
      · intro response hsome
        cases hsome
  | some entry =>
      have hmem : entry ∈ cache.entries := List.mem_of_find?_eq_some hfind
      have hkey : entry.key = key := by
        have hfound := List.find?_some hfind
        simpa using hfound
      simp only
      split
      · constructor
        · intro other hother
          exact hkeeps other (mem_of_mem_others hother)
        · intro response hsome
          cases hsome
      · constructor
        · intro other hother
          rcases List.mem_append.mp hother with hrest | hlast
          · exact hkeeps other (mem_of_mem_others hrest)
          · rw [List.mem_singleton.mp hlast]
            exact hkeeps entry hmem
        · intro response hsome
          have hproperty := hkeeps entry hmem
          rw [hkey, Option.some.inj hsome] at hproperty
          exact hproperty

theorem keepsOnly_memory_set
    {cache : MemoryCache Json} (now : Binary64) {key : String} {response : Json} (ttl : Binary64)
    (hkeeps : (memory cache).KeepsOnly property) (hproperty : property key response) :
    (memory (cache.set now key response ttl)).KeepsOnly property := by
  intro entry hmem
  have hput : entry ∈ cache.others key ++ [⟨key, now + ttl, response⟩] := List.mem_of_mem_drop hmem
  rcases List.mem_append.mp hput with hrest | hlast
  · exact hkeeps entry (mem_of_mem_others hrest)
  · rw [List.mem_singleton.mp hlast]
    exact hproperty

/-!
## Operations of a remote store
-/

theorem mem_of_lookup
    {entries : List (String × StoredBytes)} {key : String} {value : StoredBytes}
    (h : entries.lookup key = some value) :
    (key, value) ∈ entries := by
  rcases List.lookup_eq_some_iff.mp h with ⟨front, back, hsplit, _⟩
  rw [hsplit]
  exact List.mem_append_right _ List.mem_cons_self

/-- A response that is read from the store has the property, if the property is of objects that are
read back; and it holds no integer with too many digits. -/
theorem keepsOnly_remote_get
    {store : RemoteStore} {key : String} {response : Json}
    (hkeeps : (remote store).KeepsOnly property) (hown : Cache.IsOwn key)
    (hobject : forall kept : Json, property key kept ->
      exists members, kept = .object members ∧ NamesDistinct (.object members))
    (h : (store.get key).value.map WideJson.shown = some response) :
    property key response ∧ response.longInteger? = Option.none := by
  rcases Option.map_eq_some_iff.mp h with ⟨found, hfound, rfl⟩
  rcases RemoteStore.get_eq_some hfound with ⟨_, bytes, hbytes, hdecoded⟩
  rcases Option.map_eq_some_iff.mp hbytes with ⟨value, hlookup, hvalue⟩
  rcases hkeeps (key, value) (mem_of_lookup hlookup) hown with ⟨kept, hproperty, hkept⟩
  rcases hobject kept hproperty with ⟨members, hmembers, hnames⟩
  simp only at hkept
  rw [← hvalue, hkept, hmembers] at hdecoded
  rcases RemoteStore.shown_of_decodeResponse_toText hnames hdecoded with ⟨hshown, hshort⟩
  rw [hshown, ← hmembers]
  constructor
  · exact hproperty
  · rw [hmembers]
    exact hshort

theorem remote_set (store : RemoteStore) (key : String) (response : Json) (ttl : Int) :
    exists after : RemoteStore, (store.set key response.wide ttl).value = .ok after ∧
      forall entry : String × StoredBytes, entry ∈ after.entries ->
        entry ∈ store.entries ∨
          (entry.1 = key ∧ entry.2.bytes = response.toText.toUTF8) := by
  unfold RemoteStore.set
  cases store.outage with
  | some reason => exact ⟨store, rfl, fun _ hmem => Or.inl hmem⟩
  | none =>
      rw [Json.encode_write]
      refine ⟨_, rfl, fun entry hmem => ?_⟩
      rcases List.mem_append.mp hmem with hrest | hlast
      · exact Or.inl (List.mem_filter.mp hrest).1
      · rw [List.mem_singleton.mp hlast]
        exact Or.inr ⟨rfl, rfl⟩

/-!
## Operations of a backend
-/

theorem KeepsOnly.get
    {backend : Backend} (now : Binary64) (key : String) (hkeeps : backend.KeepsOnly property) :
    (backend.get now key).value.2.KeepsOnly property := by
  cases backend with
  | none => exact True.intro
  | memory cache => exact (keepsOnly_memory_get now key hkeeps).1
  | remote store => exact hkeeps

theorem KeepsOnly.found
    {backend : Backend} {now : Binary64} {key : String} {response : Json}
    (hkeeps : backend.KeepsOnly property) (hown : Cache.IsOwn key)
    (hobject : forall kept : Json, property key kept ->
      exists members, kept = .object members ∧ NamesDistinct (.object members))
    (h : (backend.get now key).value.1 = some response) :
    property key response := by
  cases backend with
  | none => cases h
  | memory cache => exact (keepsOnly_memory_get now key hkeeps).2 response h
  | remote store => exact (keepsOnly_remote_get hkeeps hown hobject h).1

/-- Where nothing is refused, a response is kept beside those that are kept already. -/
theorem exists_set
    {backend : Backend} {ttl : Int} (now : Binary64) (key : String) (response : Json)
    (h : backend.refusal? ttl = Option.none) :
    exists after : Backend, (backend.set now key response ttl).value = .ok after ∧
      after.refusal? ttl = Option.none ∧
      forall property : String -> Json -> Prop, backend.KeepsOnly property ->
        property key response -> after.KeepsOnly property := by
  cases backend with
  | none => exact ⟨none, rfl, rfl, fun _ _ _ => True.intro⟩
  | memory cache =>
      rcases set_memory cache now key response h with ⟨span, hset⟩
      exact ⟨_, hset, h, fun _ => keepsOnly_memory_set now span⟩
  | remote store =>
      rcases remote_set store key response ttl with ⟨after, hafter, hentries⟩
      refine ⟨remote after, ?_, rfl, fun property hkeeps hproperty entry hmem hown => ?_⟩
      · rw [Backend.set, Reported.map_value, hafter]
        rfl
      · rcases hentries entry hmem with hold | ⟨hkey, hbytes⟩
        · exact hkeeps entry hold hown
        · rw [hkey]
          exact ⟨response, hproperty, hbytes⟩

theorem KeepsOnly.clear
    {backend : Backend} (hkeeps : backend.KeepsOnly property) :
    backend.clear.value.KeepsOnly property := by
  cases backend with
  | none => exact True.intro
  | memory cache =>
      intro entry hmem
      cases hmem
  | remote store =>
      simp only [Backend.clear, RemoteStore.clear]
      cases store.outage with
      | some reason => exact hkeeps
      | none =>
          intro entry hmem hown
          exact hkeeps entry (List.mem_filter.mp hmem).1 hown

/-!
## What is refused stays refused
-/

theorem refusal?_get (ttl : Int) (backend : Backend) (now : Binary64) (key : String) :
    (backend.get now key).value.2.refusal? ttl = backend.refusal? ttl := by
  cases backend with
  | none => rfl
  | memory cache => rfl
  | remote store => rfl

theorem refusal?_clear (ttl : Int) (backend : Backend) :
    backend.clear.value.refusal? ttl = backend.refusal? ttl := by
  cases backend with
  | none => rfl
  | memory cache => rfl
  | remote store => rfl

end Backend

end CatalogSearch
