import CatalogSearch.Cache.Memory

/-!
# Runs of a cache in memory

A run is a list of calls, the latest first, each with the time at which it was
made.  What a run says about a key is its latest set since the last clear, and
which other keys were set or hit since the key itself was.
-/

namespace CatalogSearch

inductive CacheCall (α : Type)
  | set (time : Binary64) (key : String) (payload : α) (ttl : Binary64)
  | get (time : Binary64) (key : String)
  | clear (time : Binary64)

namespace CacheCall

variable {α : Type}

def time : CacheCall α -> Binary64
  | set time _ _ _ => time
  | get time _ => time
  | clear time => time

def HasFiniteTtl : CacheCall α -> Prop
  | set _ _ _ ttl => ttl.isFinite = true
  | _ => True

end CacheCall

structure PastSet (α : Type) where
  time : Binary64
  payload : α
  ttl : Binary64

namespace PastSet

variable {α : Type}

def expires (past : PastSet α) : Binary64 :=
  past.time + past.ttl

def entry (past : PastSet α) (key : String) : CacheEntry α :=
  ⟨key, past.expires, past.payload⟩

end PastSet

def lastSet? {α : Type} (key : String) : List (CacheCall α) -> Option (PastSet α)
  | [] => none
  | .set time other payload ttl :: earlier =>
      if other = key then some ⟨time, payload, ttl⟩ else lastSet? key earlier
  | .get _ _ :: earlier => lastSet? key earlier
  | .clear _ :: _ => none

def usedSince (key : String) (uses : List String) : List String :=
  uses.takeWhile (· != key)

namespace MemoryCache

variable {α : Type}

def keys (cache : MemoryCache α) : List String :=
  cache.entries.map (·.key)

def step (cache : MemoryCache α) : CacheCall α -> MemoryCache α
  | .set time key payload ttl => cache.set time key payload ttl
  | .get time key => (cache.get time key).2
  | .clear _ => cache.clear

def use? (cache : MemoryCache α) : CacheCall α -> Option String
  | .set _ key _ _ => some key
  | .get time key => (cache.get time key).1.map fun _ => key
  | .clear _ => none

def after (capacity : Int) : List (CacheCall α) -> MemoryCache α
  | [] => empty capacity
  | call :: earlier => (after capacity earlier).step call

def uses (capacity : Int) : List (CacheCall α) -> List String
  | [] => []
  | call :: earlier => ((after capacity earlier).use? call).toList ++ uses capacity earlier

/-!
## Single calls
-/

section Calls

variable {cache : MemoryCache α} {now : Binary64} {key : String} {entry : CacheEntry α}

theorem mem_of_find? (h : cache.find? key = some entry) :
    entry ∈ cache.entries ∧ entry.key = key := by
  have hkey := List.find?_some h
  exact ⟨List.mem_of_find?_eq_some h, by simpa using hkey⟩

theorem not_mem_keys_of_find? (h : cache.find? key = none) : key ∉ cache.keys := by
  intro hmem
  rcases List.mem_map.mp hmem with ⟨entry, hentry, hkey⟩
  have hother := List.find?_eq_none.mp h entry hentry
  simp [hkey] at hother

theorem get_of_find?_none (h : cache.find? key = none) (now : Binary64) :
    cache.get now key = (none, cache) := by
  simp only [get, h]

theorem get_of_expired (h : cache.find? key = some entry) (hexpired : entry.expires.le now = true) :
    cache.get now key = (none, { cache with entries := cache.others key }) := by
  simp only [get, h, if_pos hexpired]

theorem get_of_live (h : cache.find? key = some entry) (hlive : ¬ entry.expires.le now = true) :
    cache.get now key =
      (some entry.payload, { cache with entries := cache.others key ++ [entry] }) := by
  simp only [get, h, if_neg hlive]

theorem others_of_not_mem_keys (h : key ∉ cache.keys) : cache.others key = cache.entries := by
  unfold others
  rw [List.filter_eq_self]
  intro entry hmem
  refine bne_iff_ne.mpr ?_
  rintro rfl
  exact h (List.mem_map.mpr ⟨entry, hmem, rfl⟩)

theorem others_length_lt_of_mem_keys (h : key ∈ cache.keys) :
    (cache.others key).length < cache.size := by
  rcases List.mem_map.mp h with ⟨entry, hmem, rfl⟩
  unfold others size
  rw [List.length_filter_lt_length_iff_exists]
  exact ⟨entry, hmem, by simp⟩

theorem others_length_le : (cache.others key).length ≤ cache.size :=
  List.length_filter_le _ _

theorem fitting_of_length_le {capacity : Nat} {entries : List (CacheEntry α)}
    (h : entries.length ≤ capacity) : fitting capacity entries = entries := by
  rw [fitting, Nat.sub_eq_zero_of_le h, List.drop_zero]

/-- With the key in the cache, or with room for it, a set discards no other entry. -/
theorem set_entries_of_room (h : key ∈ cache.keys ∨ cache.size < cache.capacity)
    (hsize : cache.size ≤ cache.capacity) (now : Binary64) (payload : α) (ttl : Binary64) :
    (cache.set now key payload ttl).entries =
      cache.others key ++ [⟨key, now + ttl, payload⟩] := by
  refine fitting_of_length_le ?_
  rw [List.length_append, List.length_singleton]
  rcases h with hmem | hroom
  · exact Nat.le_trans (others_length_lt_of_mem_keys hmem) hsize
  · exact Nat.le_trans (Nat.succ_le_succ others_length_le) hroom

/-- A new key takes the place of the first entry of a full cache. -/
theorem set_entries_of_full {oldest : CacheEntry α} {rest : List (CacheEntry α)}
    (h : key ∉ cache.keys) (hentries : cache.entries = oldest :: rest)
    (hfull : cache.size = cache.capacity) (now : Binary64) (payload : α) (ttl : Binary64) :
    (cache.set now key payload ttl).entries = rest ++ [⟨key, now + ttl, payload⟩] := by
  have hlength : (oldest :: (rest ++ [⟨key, now + ttl, payload⟩])).length - cache.capacity = 1 := by
    rw [← hfull, size, hentries]
    simp
  show fitting cache.capacity _ = _
  rw [others_of_not_mem_keys h, hentries, List.cons_append, fitting, hlength, List.drop_one,
    List.tail_cons]

end Calls

/-!
## Whole runs
-/

theorem capacity_step (cache : MemoryCache α) (call : CacheCall α) :
    (cache.step call).capacity = cache.capacity := by
  cases call with
  | set time key payload ttl => rfl
  | get time key =>
      simp only [step, get]
      split
      · rfl
      · split <;> rfl
  | clear time => rfl

theorem capacity_after (capacity : Int) (history : List (CacheCall α)) :
    (after capacity history).capacity = max capacity.toNat 1 := by
  induction history with
  | nil => rfl
  | cons call earlier ih => rw [after, capacity_step, ih]

theorem fitting_length_le (capacity : Nat) (entries : List (CacheEntry α)) :
    (fitting capacity entries).length ≤ capacity := by
  unfold fitting
  rw [List.length_drop]
  omega

theorem size_step_le {cache : MemoryCache α} (h : cache.size ≤ cache.capacity)
    (call : CacheCall α) : (cache.step call).size ≤ (cache.step call).capacity := by
  cases call with
  | set time key payload ttl => exact fitting_length_le _ _
  | get time key =>
      cases hfind : cache.find? key with
      | none =>
          rw [step, get_of_find?_none hfind]
          exact h
      | some entry =>
          by_cases hexpired : entry.expires.le time = true
          · rw [step, get_of_expired hfind hexpired]
            exact Nat.le_trans others_length_le h
          · rcases mem_of_find? hfind with ⟨hmem, rfl⟩
            have hless := others_length_lt_of_mem_keys (List.mem_map_of_mem hmem)
            rw [step, get_of_live hfind hexpired]
            simp only [size, List.length_append, List.length_singleton]
            exact Nat.le_trans hless h
  | clear time => exact Nat.zero_le _

theorem size_after_le (capacity : Int) (history : List (CacheCall α)) :
    (after capacity history).size ≤ (after capacity history).capacity := by
  induction history with
  | nil => exact Nat.zero_le _
  | cons call earlier ih => exact size_step_le ih call

end MemoryCache

theorem mem_of_lastSet? {α : Type} {key : String} {history : List (CacheCall α)} {past : PastSet α}
    (h : lastSet? key history = some past) :
    .set past.time key past.payload past.ttl ∈ history := by
  induction history with
  | nil => cases h
  | cons call earlier ih =>
      cases call with
      | set time other payload ttl =>
          unfold lastSet? at h
          split at h
          · rename_i hkey
            rw [← Option.some.inj h, hkey]
            exact List.mem_cons_self
          · exact List.mem_cons_of_mem _ (ih h)
      | get time other => exact List.mem_cons_of_mem _ (ih h)
      | clear time => cases h

end CatalogSearch
