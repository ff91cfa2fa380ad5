import CatalogSearch.Proofs.Cache.MemoryRun
import Mathlib.Data.List.Nodup

/-!
# Caches of different capacities

Of two caches that saw the same calls, the larger one holds every entry of the
smaller one, in the same order, and among them no more others than it has room
for more.  When a new key comes into the larger one and fills it, the smaller
one is full as well, so that an entry which both of them hold is let go by both
or by neither.
-/

namespace CatalogSearch

namespace MemoryCache

variable {α : Type}

structure Within (small large : MemoryCache α) : Prop where
  capacity_le : small.capacity ≤ large.capacity
  sublist : small.entries.Sublist large.entries
  keys_nodup : large.keys.Nodup
  extra_le : large.size + small.capacity ≤ small.size + large.capacity

/-!
## Other keys
-/

theorem keys_others (cache : MemoryCache α) (key : String) :
    (cache.others key).map (·.key) = cache.keys.filter (· != key) := by
  rw [others, keys, List.filter_map]
  rfl

theorem others_length_of_mem_keys {cache : MemoryCache α} {key : String}
    (hnodup : cache.keys.Nodup) (h : key ∈ cache.keys) :
    (cache.others key).length + 1 = cache.size := by
  have hpositive := List.length_pos_of_mem h
  have herase := List.length_erase_of_mem h
  rw [List.Nodup.erase_eq_filter hnodup, ← keys_others, List.length_map] at herase
  rw [herase, Nat.sub_add_cancel hpositive, keys, List.length_map]
  rfl

theorem not_mem_keys_others (cache : MemoryCache α) (key : String) :
    key ∉ (cache.others key).map (·.key) := by
  rw [keys_others]
  intro hmem
  exact bne_iff_ne.mp (List.mem_filter.mp hmem).2 rfl

namespace Within

variable {small large : MemoryCache α} {key : String}

theorem mem_keys (h : Within small large) (hmem : key ∈ small.keys) : key ∈ large.keys :=
  (h.sublist.map _).subset hmem

theorem small_keys_nodup (h : Within small large) : small.keys.Nodup :=
  (h.sublist.map _).nodup h.keys_nodup

theorem find? {entry : CacheEntry α} (h : Within small large)
    (hfind : small.find? key = some entry) : large.find? key = some entry := by
  rcases mem_of_find? hfind with ⟨hmem, hkey⟩
  have hlarge := h.sublist.subset hmem
  cases hother : large.find? key with
  | none => exact absurd (List.mem_map.mpr ⟨entry, hlarge, hkey⟩) (not_mem_keys_of_find? hother)
  | some other =>
      rcases mem_of_find? hother with ⟨hotherMem, hotherKey⟩
      rw [List.inj_on_of_nodup_map h.keys_nodup hotherMem hlarge (hotherKey.trans hkey.symm)]

/-!
## Parts of calls
-/

theorem others (h : Within small large) (key : String) :
    Within { small with entries := small.others key }
      { large with entries := large.others key } := by
  have hextra := h.extra_le
  constructor
  · exact h.capacity_le
  · exact h.sublist.filter _
  · exact (List.filter_sublist.map _).nodup h.keys_nodup
  · show (large.others key).length + small.capacity ≤ (small.others key).length + large.capacity
    by_cases hsmall : key ∈ small.keys
    · have hsmallLength := others_length_of_mem_keys h.small_keys_nodup hsmall
      have hlargeLength := others_length_of_mem_keys h.keys_nodup (h.mem_keys hsmall)
      omega
    · have hlargeLength : (large.others key).length ≤ large.size := others_length_le
      rw [others_of_not_mem_keys hsmall]
      exact Nat.le_trans (Nat.add_le_add_right hlargeLength _) hextra

/-- Only the larger cache gives up a key, which the smaller one does not hold. -/
theorem others_large (h : Within small large) (hmissing : key ∉ small.keys) :
    Within small { large with entries := large.others key } := by
  have hothers := h.others key
  rw [others_of_not_mem_keys hmissing] at hothers
  exact hothers

theorem push {entry : CacheEntry α} (h : Within small large) (hnew : entry.key ∉ large.keys) :
    Within { small with entries := small.entries ++ [entry] }
      { large with entries := large.entries ++ [entry] } := by
  have hextra := h.extra_le
  constructor
  · exact h.capacity_le
  · exact h.sublist.append_right [entry]
  · show ((large.entries ++ [entry]).map (·.key)).Nodup
    rw [List.map_append, List.nodup_append]
    refine ⟨h.keys_nodup, List.nodup_singleton _, ?_⟩
    rintro kept hkept _ hlast rfl
    rw [List.map_singleton, List.mem_singleton] at hlast
    exact hnew (hlast ▸ hkept)
  · simp only [size, List.length_append] at hextra ⊢
    omega

/-- Only the larger cache moves an entry to the end, one which the smaller one does not hold. -/
theorem touch_large {entry : CacheEntry α} (h : Within small large)
    (hmissing : entry.key ∉ small.keys) (hmem : entry.key ∈ large.keys) :
    Within small { large with entries := large.others entry.key ++ [entry] } := by
  have hothers := h.others_large hmissing
  have hlength := others_length_of_mem_keys h.keys_nodup hmem
  have hextra := h.extra_le
  constructor
  · exact h.capacity_le
  · exact hothers.sublist.trans (List.sublist_append_left _ _)
  · exact ((h.others entry.key).push (not_mem_keys_others large entry.key)).keys_nodup
  · simp only [size, List.length_append, List.length_singleton] at hextra hlength ⊢
    omega

/-- Both caches let go what does not fit.  The larger one lets go no more entries, and they are
among the first ones of both. -/
theorem fit (h : Within small large) :
    Within { small with entries := fitting small.capacity small.entries }
      { large with entries := fitting large.capacity large.entries } := by
  have hextra := h.extra_le
  simp only [size] at hextra
  constructor
  · exact h.capacity_le
  · have hdrops :
        large.entries.length - large.capacity ≤ small.entries.length - small.capacity := by omega
    exact (h.sublist.drop _).trans (List.drop_sublist_drop_left _ hdrops)
  · exact ((List.drop_sublist _ _).map _).nodup h.keys_nodup
  · simp only [size, fitting, List.length_drop]
    omega

/-!
## Calls
-/

theorem set (h : Within small large) (time : Binary64) (key : String) (payload : α)
    (ttl : Binary64) : Within (small.set time key payload ttl) (large.set time key payload ttl) :=
  ((h.others key).push (not_mem_keys_others large key)).fit

theorem get (h : Within small large) (time : Binary64) (key : String) :
    Within (small.get time key).2 (large.get time key).2 := by
  cases hlarge : large.find? key with
  | none =>
      have hsmall : small.find? key = none := by
        cases hfind : small.find? key with
        | none => rfl
        | some entry =>
            rw [h.find? hfind] at hlarge
            cases hlarge
      rw [get_of_find?_none hlarge, get_of_find?_none hsmall]
      exact h
  | some entry =>
      rcases mem_of_find? hlarge with ⟨hmem, rfl⟩
      have hkept := List.mem_map_of_mem (f := (·.key)) hmem
      cases hsmall : small.find? entry.key with
      | none =>
          have hmissing := not_mem_keys_of_find? hsmall
          rw [get_of_find?_none hsmall]
          by_cases hexpired : entry.expires.le time = true
          · rw [get_of_expired hlarge hexpired]
            exact h.others_large hmissing
          · rw [get_of_live hlarge hexpired]
            exact h.touch_large hmissing hkept
      | some other =>
          have hsame : other = entry := Option.some.inj ((h.find? hsmall).symm.trans hlarge)
          rw [hsame] at hsmall
          by_cases hexpired : entry.expires.le time = true
          · rw [get_of_expired hlarge hexpired, get_of_expired hsmall hexpired]
            exact h.others entry.key
          · rw [get_of_live hlarge hexpired, get_of_live hsmall hexpired]
            exact (h.others entry.key).push (not_mem_keys_others large entry.key)

theorem nothing (hcapacity : small.capacity ≤ large.capacity) (hsmall : small.entries = [])
    (hlarge : large.entries = []) : Within small large := by
  constructor
  · exact hcapacity
  · rw [hsmall, hlarge]
  · rw [keys, hlarge]
    exact List.nodup_nil
  · rw [size, size, hsmall, hlarge]
    exact Nat.add_le_add_left hcapacity _

theorem step (h : Within small large) (call : CacheCall α) :
    Within (small.step call) (large.step call) := by
  cases call with
  | set time key payload ttl => exact h.set time key payload ttl
  | get time key => exact h.get time key
  | clear time => exact nothing h.capacity_le rfl rfl

theorem found {now : Binary64} {payload : α} (h : Within small large)
    (hfound : (small.get now key).1 = some payload) : (large.get now key).1 = some payload := by
  cases hfind : small.find? key with
  | none =>
      rw [get_of_find?_none hfind] at hfound
      cases hfound
  | some entry =>
      by_cases hexpired : entry.expires.le now = true
      · rw [get_of_expired hfind hexpired] at hfound
        cases hfound
      · rw [get_of_live hfind hexpired] at hfound
        rw [get_of_live (h.find? hfind) hexpired]
        exact hfound

end Within

/-!
## Runs
-/

theorem within_after {small large : Int} (h : small ≤ large) (history : List (CacheCall α)) :
    Within (after small history) (after large history) := by
  induction history with
  | nil =>
      refine Within.nothing ?_ rfl rfl
      show max small.toNat 1 ≤ max large.toNat 1
      omega
  | cons call earlier ih => exact ih.step call

/-- After the same calls, what a cache finds is found by every cache of a larger capacity. -/
theorem found_in_larger {small large : Int} (h : small ≤ large) (history : List (CacheCall α))
    {now : Binary64} {key : String} {payload : α}
    (hfound : ((after small history).get now key).1 = some payload) :
    ((after large history).get now key).1 = some payload :=
  (within_after h history).found hfound

def hitInLargerOnly : List (CacheCall String) :=
  [.set (.ofNat 2) "desk" "c" (.ofNat 60), .get (.ofNat 1) "lamp",
    .set .zero "shelf" "b" (.ofNat 60), .set .zero "lamp" "a" (.ofNat 60)]

theorem found_in_larger_hitInLargerOnly :
    ((after 1 hitInLargerOnly).get (.ofNat 3) "desk").1 = some "c" ∧
      ((after 2 hitInLargerOnly).get (.ofNat 3) "desk").1 = some "c" := by
  have hfound : ((after 1 hitInLargerOnly).get (.ofNat 3) "desk").1 = some "c" := by
    decide +kernel
  exact ⟨hfound, found_in_larger (by decide) hitInLargerOnly hfound⟩

end MemoryCache

end CatalogSearch
