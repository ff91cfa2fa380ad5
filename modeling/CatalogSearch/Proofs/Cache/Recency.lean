import CatalogSearch.Proofs.Cache.MemoryRun
import CatalogSearch.Proofs.Number.Order
import Mathlib.Data.List.Dedup
import Mathlib.Data.List.Perm.Subperm
import Mathlib.Data.List.TakeWhile

/-!
# The entries used least recently

The entries of a cache stand in the order of their last use.  A key that was
set and is no longer kept has expired, or as many other keys as the cache holds
were used since: only the entry used longest ago ever makes room for another.
-/

namespace CatalogSearch

/-!
## Uses
-/

theorem usedSince_cons_of_ne {key used : String} (h : used ≠ key) (uses : List String) :
    usedSince key (used :: uses) = used :: usedSince key uses :=
  List.takeWhile_cons_of_pos (bne_iff_ne.mpr h)

theorem ne_of_mem_usedSince {key other : String} {uses : List String}
    (h : other ∈ usedSince key uses) : other ≠ key := by
  have hbefore := List.mem_takeWhile_imp h
  exact bne_iff_ne.mp hbefore

/-- Different keys among some are at most as many as the different ones of them all. -/
theorem length_le_dedup {keys uses : List String} (hnodup : keys.Nodup) (h : keys ⊆ uses) :
    keys.length ≤ uses.dedup.length :=
  (List.Nodup.subperm hnodup fun _ hmem => List.mem_dedup.mpr (h hmem)).length_le

theorem dedup_usedSince_le {key used : String} (h : used ≠ key) (uses : List String) :
    (usedSince key uses).dedup.length ≤ (usedSince key (used :: uses)).dedup.length := by
  rw [usedSince_cons_of_ne h]
  apply length_le_dedup (List.nodup_dedup _)
  intro other hmem
  exact List.mem_cons_of_mem _ (List.mem_dedup.mp hmem)

/-!
## What entries recall
-/

/-- Entries in the order of their last use, each of the latest set of its key, where a key that is
missing has expired or has been pushed out by others. -/
structure Recalls {α : Type} (capacity : Nat) (history : List (CacheCall α)) (uses : List String)
    (entries : List (CacheEntry α)) : Prop where
  order : entries.Pairwise fun older newer => newer.key ∈ usedSince older.key uses
  latest : forall entry, entry ∈ entries ->
    exists past, lastSet? entry.key history = some past ∧ entry = past.entry entry.key
  missing : forall key past, lastSet? key history = some past -> key ∉ entries.map (·.key) ->
    (exists call, call ∈ history ∧ past.expires.le call.time = true) ∨
      capacity ≤ (usedSince key uses).dedup.length

namespace Recalls

variable {α : Type} {capacity : Nat} {history : List (CacheCall α)} {uses : List String}
variable {entries : List (CacheEntry α)} {key : String}

theorem keys_nodup (h : Recalls capacity history uses entries) :
    (entries.map (·.key)).Nodup := by
  rw [List.Nodup, List.pairwise_map]
  exact h.order.imp fun hmem => (ne_of_mem_usedSince hmem).symm

theorem nothing (h : forall key, lastSet? key history = none) :
    Recalls capacity history uses [] := by
  constructor
  · exact List.Pairwise.nil
  · intro entry hmem
    cases hmem
  · intro key past hpast
    rw [h key] at hpast
    cases hpast

/-- A key that is not found, or found expired, is dropped. -/
theorem drop (h : Recalls capacity history uses entries) (time : Binary64) (key : String)
    (hexpired : forall entry, entry ∈ entries -> entry.key = key ->
      entry.expires.le time = true) :
    Recalls capacity (.get time key :: history) uses (entries.filter (·.key != key)) := by
  constructor
  · exact h.order.sublist List.filter_sublist
  · intro entry hmem
    exact h.latest entry (List.mem_filter.mp hmem).1
  · intro other past hpast hmissing
    by_cases hkept : other ∈ entries.map (·.key)
    · left
      rcases List.mem_map.mp hkept with ⟨entry, hmem, rfl⟩
      have hkey : entry.key = key := by
        by_contra hne
        exact hmissing (List.mem_map_of_mem (List.mem_filter.mpr ⟨hmem, bne_iff_ne.mpr hne⟩))
      rcases h.latest entry hmem with ⟨latest, hlatest, hentry⟩
      have hsame : past = latest := Option.some.inj (hpast.symm.trans hlatest)
      refine ⟨_, List.mem_cons_self, ?_⟩
      have hexpires : entry.expires = past.expires := by rw [hentry, hsame]; rfl
      rw [← hexpires]
      exact hexpired entry hmem hkey
    · rcases h.missing other past hpast hkept with ⟨earlier, hmem, hle⟩ | hothers
      · exact Or.inl ⟨earlier, List.mem_cons_of_mem _ hmem, hle⟩
      · exact Or.inr hothers

/-- A key that is set or hit goes to the end. -/
theorem touch {past : PastSet α} (h : Recalls capacity history uses entries) (call : CacheCall α)
    (hkey : lastSet? key (call :: history) = some past)
    (hothers : forall other, other ≠ key ->
      lastSet? other (call :: history) = lastSet? other history) :
    Recalls capacity (call :: history) (key :: uses)
      (entries.filter (·.key != key) ++ [past.entry key]) := by
  have hne : forall entry, entry ∈ entries.filter (·.key != key) -> key ≠ entry.key := by
    intro entry hmem
    exact (bne_iff_ne.mp (List.mem_filter.mp hmem).2).symm
  constructor
  · rw [List.pairwise_append]
    refine ⟨?_, List.pairwise_singleton _ _, ?_⟩
    · refine (h.order.sublist List.filter_sublist).imp_of_mem ?_
      intro older newer holder _ hmem
      rw [usedSince_cons_of_ne (hne older holder)]
      exact List.mem_cons_of_mem _ hmem
    · intro older holder newest hnewest
      rw [List.mem_singleton.mp hnewest, usedSince_cons_of_ne (hne older holder)]
      exact List.mem_cons_self
  · intro entry hmem
    rcases List.mem_append.mp hmem with hrest | hlast
    · rw [hothers entry.key (hne entry hrest).symm]
      exact h.latest entry (List.mem_filter.mp hrest).1
    · rw [List.mem_singleton.mp hlast]
      exact ⟨past, hkey, rfl⟩
  · intro other latest hlatest hmissing
    rw [List.map_append, List.mem_append, not_or] at hmissing
    have hother : other ≠ key := by
      rintro rfl
      exact hmissing.2 List.mem_cons_self
    have hgone : other ∉ entries.map (·.key) := by
      intro hkept
      rcases List.mem_map.mp hkept with ⟨entry, hmem, rfl⟩
      exact hmissing.1
        (List.mem_map_of_mem (List.mem_filter.mpr ⟨hmem, bne_iff_ne.mpr hother⟩))
    rw [hothers other hother] at hlatest
    rcases h.missing other latest hlatest hgone with ⟨earlier, hmem, hle⟩ | hcount
    · exact Or.inl ⟨earlier, List.mem_cons_of_mem _ hmem, hle⟩
    · exact Or.inr (Nat.le_trans hcount (dedup_usedSince_le hother.symm uses))

/-- The first entry is let go when the others fill the cache: they were all used since. -/
theorem evict {oldest : CacheEntry α} (h : Recalls capacity history uses (oldest :: entries))
    (hfull : capacity ≤ entries.length) : Recalls capacity history uses entries := by
  rcases List.pairwise_cons.mp h.order with ⟨hsince, horder⟩
  constructor
  · exact horder
  · exact fun entry hmem => h.latest entry (List.mem_cons_of_mem _ hmem)
  · intro key past hpast hmissing
    by_cases holdest : key = oldest.key
    · right
      have hkeys : entries.map (·.key) ⊆ usedSince key uses := by
        intro other hmem
        rcases List.mem_map.mp hmem with ⟨entry, hentry, rfl⟩
        rw [holdest]
        exact hsince entry hentry
      have hcount := length_le_dedup (List.nodup_cons.mp h.keys_nodup).2 hkeys
      rw [List.length_map] at hcount
      exact Nat.le_trans hfull hcount
    · apply h.missing key past hpast
      rw [List.map_cons, List.mem_cons, not_or]
      exact ⟨holdest, hmissing⟩

end Recalls

namespace MemoryCache

variable {α : Type} {capacity : Int} {history : List (CacheCall α)} {now : Binary64}

/-!
## Runs
-/

theorem recalls_set {cache : MemoryCache α} {uses : List String}
    (h : Recalls cache.capacity history uses cache.entries) (hpositive : 1 ≤ cache.capacity)
    (hsize : cache.size ≤ cache.capacity) (time : Binary64) (key : String) (payload : α)
    (ttl : Binary64) :
    Recalls cache.capacity (.set time key payload ttl :: history) (key :: uses)
      (cache.set time key payload ttl).entries := by
  have hkey : lastSet? key (.set time key payload ttl :: history) = some ⟨time, payload, ttl⟩ := by
    rw [lastSet?, if_pos rfl]
  have hothers : forall other, other ≠ key ->
      lastSet? other (.set time key payload ttl :: history) = lastSet? other history := by
    intro other hne
    rw [lastSet?, if_neg fun heq => hne heq.symm]
  have htouch := h.touch _ hkey hothers
  by_cases hroom : key ∈ cache.keys ∨ cache.size < cache.capacity
  · rw [set_entries_of_room hroom hsize]
    exact htouch
  · rw [not_or] at hroom
    have hfull : cache.size = cache.capacity := Nat.le_antisymm hsize (Nat.not_lt.mp hroom.2)
    have hsame : cache.entries.filter (·.key != key) = cache.entries :=
      others_of_not_mem_keys hroom.1
    rw [hsame] at htouch
    cases hentries : cache.entries with
    | nil =>
        rw [← hfull, size, hentries] at hpositive
        cases hpositive
    | cons oldest rest =>
        rw [set_entries_of_full hroom.1 hentries hfull]
        rw [hentries] at htouch
        refine htouch.evict ?_
        rw [← hfull, size, hentries]
        simp

theorem recalls_get {cache : MemoryCache α} {uses : List String}
    (h : Recalls cache.capacity history uses cache.entries) (time : Binary64) (key : String) :
    Recalls cache.capacity (.get time key :: history)
      ((cache.use? (.get time key)).toList ++ uses) (cache.get time key).2.entries := by
  cases hfind : cache.find? key with
  | none =>
      have hmissing := not_mem_keys_of_find? hfind
      have hdrop := h.drop time key fun entry hmem hkey =>
        absurd (List.mem_map.mpr ⟨entry, hmem, hkey⟩) hmissing
      have hsame : cache.entries.filter (·.key != key) = cache.entries :=
        others_of_not_mem_keys hmissing
      rw [hsame] at hdrop
      rw [use?, get_of_find?_none hfind]
      exact hdrop
  | some entry =>
      rcases mem_of_find? hfind with ⟨hmem, rfl⟩
      by_cases hexpired : entry.expires.le time = true
      · rw [use?, get_of_expired hfind hexpired]
        refine h.drop time entry.key fun other hother hkey => ?_
        rw [List.inj_on_of_nodup_map h.keys_nodup hother hmem hkey]
        exact hexpired
      · rcases h.latest entry hmem with ⟨past, hpast, hentry⟩
        have htouch := h.touch (.get time entry.key) hpast fun _ _ => rfl
        rw [use?, get_of_live hfind hexpired]
        rw [← hentry] at htouch
        exact htouch

theorem recalls_after (capacity : Int) (history : List (CacheCall α)) :
    Recalls (after capacity history).capacity history (uses capacity history)
      (after capacity history).entries := by
  induction history with
  | nil => exact Recalls.nothing fun _ => rfl
  | cons call earlier ih =>
      have hsize := size_after_le capacity earlier
      have hpositive : 1 ≤ (after capacity earlier).capacity := by
        rw [capacity_after]
        exact Nat.le_max_right _ _
      rw [after, capacity_step, uses]
      cases call with
      | set time key payload ttl => exact recalls_set ih hpositive hsize time key payload ttl
      | get time key => exact recalls_get ih time key
      | clear time => exact Recalls.nothing fun _ => rfl

/-!
## What a run shows
-/

structure CameBefore (now : Binary64) (history : List (CacheCall α)) : Prop where
  time_le : forall call, call ∈ history -> call.time.le now = true
  finite_ttl : forall call, call ∈ history -> call.HasFiniteTtl

/-- A cache, after the calls of a run, that holds a limited number of entries under different keys,
finds what was set last and has not expired unless too many other keys were used since, and lets go
the entry used longest ago when a new key comes into a full cache, and only then. -/
structure KeepsRecent (capacity : Int) (history : List (CacheCall α)) (now : Binary64) : Prop where
  size_le : (after capacity history).size ≤ max capacity.toNat 1
  keys_nodup : (after capacity history).keys.Nodup
  found_latest : forall key payload, ((after capacity history).get now key).1 = some payload ->
    exists past, lastSet? key history = some past ∧ past.payload = payload ∧
      now.lt (past.time + past.ttl) = true
  recent_found : forall key past, lastSet? key history = some past ->
    now.lt (past.time + past.ttl) = true ->
    (usedSince key (uses capacity history)).dedup.length < max capacity.toNat 1 ->
    ((after capacity history).get now key).1 = some past.payload
  set_keeps : forall key payload ttl,
    key ∈ (after capacity history).keys ∨ (after capacity history).size < max capacity.toNat 1 ->
    ((after capacity history).set now key payload ttl).entries =
      (after capacity history).others key ++ [⟨key, now + ttl, payload⟩]
  set_evicts : forall key payload ttl, key ∉ (after capacity history).keys ->
    (after capacity history).size = max capacity.toNat 1 ->
    exists oldest rest, (after capacity history).entries = oldest :: rest ∧
      ((after capacity history).set now key payload ttl).entries =
        rest ++ [⟨key, now + ttl, payload⟩] ∧
      forall entry, entry ∈ rest -> entry.key ∈ usedSince oldest.key (uses capacity history)

theorem CameBefore.expires_isNaN (h : CameBefore now history) {key : String} {past : PastSet α}
    (hpast : lastSet? key history = some past) :
    past.expires.isNaN = false ∧ now.isNaN = false := by
  have hmem := mem_of_lastSet? hpast
  have htime := Binary64.le_iff.mp (h.time_le _ hmem)
  exact ⟨Binary64.isNaN_add htime.1 (h.finite_ttl _ hmem), htime.2.1⟩

theorem found_of_recalls {cache : MemoryCache α} {uses : List String} {key : String} {payload : α}
    (h : Recalls cache.capacity history uses cache.entries)
    (hfound : (cache.get now key).1 = some payload) :
    exists past, lastSet? key history = some past ∧ past.payload = payload ∧
      ¬ past.expires.le now = true := by
  cases hfind : cache.find? key with
  | none =>
      rw [get_of_find?_none hfind] at hfound
      cases hfound
  | some entry =>
      rcases mem_of_find? hfind with ⟨hmem, rfl⟩
      by_cases hexpired : entry.expires.le now = true
      · rw [get_of_expired hfind hexpired] at hfound
        cases hfound
      · rw [get_of_live hfind hexpired] at hfound
        rcases h.latest entry hmem with ⟨past, hpast, hentry⟩
        have hexpires : past.expires = entry.expires := by rw [hentry]; rfl
        have hpayload : past.payload = entry.payload := by rw [hentry]; rfl
        exact ⟨past, hpast, hpayload.trans (Option.some.inj hfound), hexpires ▸ hexpired⟩

theorem found_of_kept {cache : MemoryCache α} {uses : List String} {key : String} {past : PastSet α}
    (h : Recalls cache.capacity history uses cache.entries)
    (hpast : lastSet? key history = some past) (hlive : ¬ past.expires.le now = true)
    (hkept : key ∈ cache.keys) : (cache.get now key).1 = some past.payload := by
  cases hfind : cache.find? key with
  | none => exact absurd hkept (not_mem_keys_of_find? hfind)
  | some entry =>
      rcases mem_of_find? hfind with ⟨hmem, rfl⟩
      rcases h.latest entry hmem with ⟨latest, hlatest, hentry⟩
      have hsame : latest = past := Option.some.inj (hlatest.symm.trans hpast)
      rw [hsame] at hentry
      rw [get_of_live hfind (by rw [hentry]; exact hlive), hentry]
      rfl

/-- A cache in memory keeps what was used most recently. -/
theorem keepsRecent_after (capacity : Int) {history : List (CacheCall α)} {now : Binary64}
    (h : CameBefore now history) : KeepsRecent capacity history now := by
  have hcapacity := capacity_after capacity history
  have hsize := size_after_le capacity history
  have hrecalls := recalls_after capacity history
  constructor
  · exact hcapacity ▸ hsize
  · exact hrecalls.keys_nodup
  · intro key payload hfound
    rcases found_of_recalls hrecalls hfound with ⟨past, hpast, hpayload, hlive⟩
    rcases h.expires_isNaN hpast with ⟨hexpires, hnow⟩
    exact ⟨past, hpast, hpayload, Binary64.lt_of_not_le hexpires hnow hlive⟩
  · intro key past hpast hbefore hfew
    have hlive := Binary64.not_le_of_lt hbefore
    apply found_of_kept hrecalls hpast hlive
    by_contra hmissing
    rcases hrecalls.missing key past hpast hmissing with ⟨call, hmem, hexpired⟩ | hmany
    · exact hlive (Binary64.le_trans hexpired (h.time_le call hmem))
    · rw [hcapacity] at hmany
      exact Nat.not_le.mpr hfew hmany
  · intro key payload ttl hroom
    rw [← hcapacity] at hroom
    exact set_entries_of_room hroom hsize now payload ttl
  · intro key payload ttl hnew hfull
    cases hentries : (after capacity history).entries with
    | nil =>
        rw [size, hentries, List.length_nil] at hfull
        have hpositive := Nat.le_max_right capacity.toNat 1
        omega
    | cons oldest rest =>
        rw [← hcapacity] at hfull
        rw [hentries] at hrecalls
        exact ⟨oldest, rest, rfl, set_entries_of_full hnew hentries hfull now payload ttl,
          (List.pairwise_cons.mp hrecalls.order).1⟩

def readBeforeThird : List (CacheCall String) :=
  [.get (.ofNat 1) "lamp", .set .zero "shelf" "b" (.ofNat 60), .set .zero "lamp" "a" (.ofNat 60)]

theorem keepsRecent_readBeforeThird :
    CameBefore (.ofNat 2) readBeforeThird ∧ KeepsRecent 2 readBeforeThird (.ofNat 2) := by
  have hbefore : CameBefore (.ofNat 2) readBeforeThird := by
    constructor
    · decide +kernel
    · intro call hmem
      simp only [readBeforeThird, List.mem_cons, List.not_mem_nil, or_false] at hmem
      rcases hmem with rfl | rfl | rfl
      · exact True.intro
      · show (Binary64.ofNat 60).isFinite = true
        decide +kernel
      · show (Binary64.ofNat 60).isFinite = true
        decide +kernel
  exact ⟨hbefore, keepsRecent_after 2 hbefore⟩

end MemoryCache

end CatalogSearch
