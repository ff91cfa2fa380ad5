import CatalogSearch.Proofs.Service.Interleaving
import CatalogSearch.Proofs.Service.Transparency

/-!
# No stale answers

While searches are under way catalogs may be put in at any moment, and a slow search may store
its answer long after.  Its key names the version that it read, and no version is used again,
so that every kept response is an answer from the catalog of the version in its key, and every
search gives the answer from the snapshot that it read, but for the time.
-/

namespace CatalogSearch

open Service

namespace BusyService

/-- The begun searches, the kept responses and the outcomes fit the snapshots of a run. -/
structure Serves (setup : ServiceSetup) (refusal? : Option StoreError) (snapshots : List Snapshot)
    (busy : BusyService) : Prop where
  started : forall pending, pending ∈ busy.begun -> WellStarted pending
  in_effect : forall pending, pending ∈ busy.begun -> pending.snapshot ∈ snapshots
  kept : busy.service.backend.KeepsOnly (AnswersPast setup refusal? busy.begun)
  refusal_eq : busy.service.backend.refusal? setup.cacheTtl = refusal?
  answered : forall pending outcome, .answered pending outcome ∈ busy.searches ->
    outcome.map Json.withoutTime = (pending.outcome setup refusal?).map Json.withoutTime

theorem mem_begun {busy : BusyService} {place : Nat} {stage : SearchStage} {pending : Pending}
    (h : busy.searches[place]? = some stage) (horigin : stage.origin = .ok pending) :
    pending ∈ busy.begun := by
  rw [begun, List.mem_filterMap]
  exact ⟨_, List.mem_map_of_mem (List.mem_of_getElem? h), by rw [horigin]; rfl⟩

namespace Serves

variable {setup : ServiceSetup} {refusal? : Option StoreError} {snapshots : List Snapshot}
  {busy : BusyService}

/-!
## Parts of steps
-/

theorem more_snapshots (h : Serves setup refusal? snapshots busy) (snapshot : Snapshot) :
    Serves setup refusal? (snapshot :: snapshots) busy := by
  constructor
  · exact h.started
  · exact fun pending hmem => List.mem_cons_of_mem _ (h.in_effect pending hmem)
  · exact h.kept
  · exact h.refusal_eq
  · exact h.answered

theorem withBackend (h : Serves setup refusal? snapshots busy) {backend : Backend}
    (hkept : backend.KeepsOnly (AnswersPast setup refusal? busy.begun))
    (hrefusal : backend.refusal? setup.cacheTtl = busy.service.backend.refusal? setup.cacheTtl) :
    Serves setup refusal? snapshots (busy.withBackend backend) := by
  constructor
  · exact h.started
  · exact h.in_effect
  · exact hkept
  · exact hrefusal.trans h.refusal_eq
  · exact h.answered

theorem withStage (h : Serves setup refusal? snapshots busy) {place : Nat} {old stage : SearchStage}
    (hplace : busy.searches[place]? = some old) (horigin : stage.origin = old.origin)
    (houtcome : forall pending outcome, stage = .answered pending outcome ->
      outcome.map Json.withoutTime = (pending.outcome setup refusal?).map Json.withoutTime) :
    Serves setup refusal? snapshots (busy.withStage place stage) := by
  have hbegun : (busy.withStage place stage).begun = busy.begun := by
    rw [begun, origins_withStage _ hplace horigin, begun]
  constructor
  · rw [hbegun]
    exact h.started
  · rw [hbegun]
    exact h.in_effect
  · rw [hbegun]
    exact h.kept
  · exact h.refusal_eq
  · intro pending outcome hmem
    rcases List.mem_or_eq_of_mem_set hmem with hbefore | hnew
    · exact h.answered pending outcome hbefore
    · exact houtcome pending outcome hnew.symm

theorem outcome_of_kept (h : Serves setup refusal? snapshots busy)
    (hversions : VersionsIdentify snapshots) (hseparates : DigestSeparates busy.begun)
    {pending : Pending} (hmem : pending ∈ busy.begun) {response : Json}
    (hkept : AnswersPast setup refusal? busy.begun pending.key response) :
    .ok response.withoutTime = (pending.outcome setup refusal?).map Json.withoutTime := by
  rcases hkept.sameSearch (List.Subset.refl _) hmem hseparates h.started with
    ⟨other, hother, hsame, houtcome⟩
  have hsnapshot : other.snapshot = pending.snapshot :=
    hversions _ _ (h.in_effect other hother) (h.in_effect pending hmem) hsame.version
  rw [← withoutTime_outcome_congr refusal? hsame hsnapshot, houtcome]
  rfl

/-!
## Steps
-/

theorem begin (h : Serves setup refusal? snapshots busy) {request : SearchRequest}
    (elapsed : Binary64) (hpage : request.page.isString = false)
    (hsnapshot : busy.service.snapshot ∈ snapshots) :
    Serves setup refusal? snapshots (busy.begin setup request elapsed) := by
  have hbegun := busy.begun_step setup (.begin request elapsed)
  simp only [step] at hbegun
  have hnew : forall pending,
      pending ∈ (start setup busy.service.snapshot request elapsed).value.toOption.toList ->
        WellStarted pending ∧ pending.snapshot = busy.service.snapshot := by
    intro pending hmem
    cases hstart : (start setup busy.service.snapshot request elapsed).value with
    | error error =>
        rw [hstart] at hmem
        cases hmem
    | ok started =>
        rw [hstart] at hmem
        rw [List.mem_singleton.mp hmem]
        exact wellStarted_of_start hpage hstart
  constructor
  · intro pending hmem
    rw [hbegun] at hmem
    rcases List.mem_append.mp hmem with hbefore | hlast
    · exact h.started pending hbefore
    · exact (hnew pending hlast).1
  · intro pending hmem
    rw [hbegun] at hmem
    rcases List.mem_append.mp hmem with hbefore | hlast
    · exact h.in_effect pending hbefore
    · rw [(hnew pending hlast).2]
      exact hsnapshot
  · rw [hbegun]
    exact h.kept.mono fun _ _ => AnswersPast.mono (List.subset_append_left _ _)
  · exact h.refusal_eq
  · intro pending outcome hmem
    rcases List.mem_append.mp hmem with hbefore | hlast
    · exact h.answered pending outcome hbefore
    · have hstage := List.mem_singleton.mp hlast
      cases hstart : (start setup busy.service.snapshot request elapsed).value with
      | ok started =>
          rw [hstart] at hstage
          cases hstage
      | error error =>
          rw [hstart] at hstage
          cases hstage

theorem lookUp (h : Serves setup refusal? snapshots busy) (hversions : VersionsIdentify snapshots)
    (hseparates : DigestSeparates busy.begun) (place : Nat) :
    Serves setup refusal? snapshots (busy.lookUp place) := by
  by_cases hreading : exists pending, busy.searches[place]? = some (.reading pending)
  · rcases hreading with ⟨pending, hreading⟩
    have hmem : pending ∈ busy.begun := mem_begun hreading rfl
    have hown : Cache.IsOwn pending.key := by
      rw [(h.started pending hmem).key]
      exact Cache.isOwn_key _
    rw [lookUp_of_reading hreading]
    refine (h.withBackend (h.kept.get busy.now pending.key)
      (Backend.refusal?_get _ _ _ _)).withStage hreading (origin_ofLookUp _ _) ?_
    intro other outcome hstage
    cases hfound : (busy.service.backend.get busy.now pending.key).value.1 with
    | none =>
        rw [hfound] at hstage
        cases hstage
    | some response =>
        rw [hfound] at hstage
        cases hstage
        have hkept := h.kept.found hown AnswersPast.object hfound
        exact h.outcome_of_kept hversions hseparates hmem hkept
  · rw [lookUp_of_other fun pending heq => hreading ⟨pending, heq⟩]
    exact h

theorem store (h : Serves setup refusal? snapshots busy) (place : Nat) :
    Serves setup refusal? snapshots (busy.store setup place) := by
  by_cases hmissed : exists pending, busy.searches[place]? = some (.missed pending)
  · rcases hmissed with ⟨pending, hmissed⟩
    have hmem : pending ∈ busy.begun := mem_begun hmissed rfl
    have houtcome := storeAnswer_outcome setup busy.now pending busy.service.backend
    rw [h.refusal_eq] at houtcome
    have hkept : (storeAnswer setup busy.now pending busy.service.backend).value.2.KeepsOnly
        (AnswersPast setup refusal? busy.begun) := by
      apply storeAnswer_keepsOnly busy.now h.kept
      intro response hgiven
      rw [h.refusal_eq] at hgiven
      exact ⟨pending, hmem, rfl, hgiven⟩
    rw [store_of_missed hmissed]
    refine (h.withBackend hkept (refusal?_storeAnswer _ _ _ _)).withStage hmissed rfl ?_
    intro other outcome hstage
    cases hstage
    rw [houtcome]
  · rw [store_of_other fun pending heq => hmissed ⟨pending, heq⟩]
    exact h

theorem step (h : Serves setup refusal? snapshots busy) (hversions : VersionsIdentify snapshots)
    (hsnapshot : busy.service.snapshot ∈ snapshots) (hseparates : DigestSeparates busy.begun)
    (step : BusyStep)
    (hpage : forall request elapsed, step = .begin request elapsed ->
      request.page.isString = false) :
    Serves setup refusal? snapshots (busy.step setup step) := by
  cases step with
  | begin request elapsed => exact h.begin elapsed (hpage request elapsed rfl) hsnapshot
  | lookUp place => exact h.lookUp hversions hseparates place
  | store place => exact h.store place
  | install catalog => exact ⟨h.started, h.in_effect, h.kept, h.refusal_eq, h.answered⟩
  | clear => exact h.withBackend h.kept.clear (Backend.refusal?_clear _ _)
  | advance now expired =>
      have hserves := h.withBackend (h.kept.expire expired) (Backend.refusal?_expire _ _ _)
      exact ⟨hserves.started, hserves.in_effect, hserves.kept, hserves.refusal_eq,
        hserves.answered⟩
  | outage reason =>
      exact h.withBackend (h.kept.setOutage reason) (Backend.refusal?_setOutage _ _ _)

end Serves

/-!
## Runs
-/

variable {setup : ServiceSetup} {refusal? : Option StoreError} {start : BusyService}

theorem serves_after {run : List BusyStep} (hfresh : start.service.backend.IsFresh)
    (hidle : start.searches = [])
    (hpages : forall request elapsed, BusyStep.begin request elapsed ∈ run ->
      request.page.isString = false)
    (hseparates : DigestSeparates (start.after setup run).begun) :
    Serves setup (start.service.backend.refusal? setup.cacheTtl) (start.snapshots setup run)
      (start.after setup run) := by
  induction run with
  | nil =>
      have hbegun : start.begun = [] := by
        rw [begun, hidle]
        rfl
      constructor
      · intro pending hmem
        rw [after, hbegun] at hmem
        cases hmem
      · intro pending hmem
        rw [after, hbegun] at hmem
        cases hmem
      · exact hfresh.keepsOnly _
      · rfl
      · intro pending outcome hmem
        rw [after, hidle] at hmem
        cases hmem
  | cons step earlier ih =>
      have hbefore : DigestSeparates (start.after setup earlier).begun := by
        apply hseparates.subset
        rw [after, begun_step]
        exact List.subset_append_left _ _
      have hearlier := ih
        (fun request elapsed hmem => hpages request elapsed (List.mem_cons_of_mem _ hmem)) hbefore
      have hversions : VersionsIdentify (start.snapshots setup earlier) :=
        fun _ _ hfirst hsecond => snapshot_eq_of_version_eq setup start hfirst hsecond
      exact (hearlier.step hversions (snapshot_mem_snapshots setup start earlier) hbefore step
        fun request elapsed heq =>
          hpages request elapsed (heq ▸ List.mem_cons_self)).more_snapshots _

theorem version_lt_after_install {middle earlier : List BusyStep} {catalog : Catalog}
    {old : Snapshot} (h : old ∈ start.snapshots setup earlier) :
    old.version <
      (start.after setup (middle ++ .install catalog :: earlier)).service.snapshot.version := by
  have hbefore := version_le_of_mem_snapshots setup start h
  have hlater := version_le_after setup (start.after setup (.install catalog :: earlier)) middle
  rw [← after_append] at hlater
  exact Nat.lt_of_lt_of_le (Nat.lt_succ_of_le hbefore) hlater

theorem Serves.outcome_eq {snapshots : List Snapshot} {busy : BusyService}
    (h : Serves setup refusal? snapshots busy) {snapshot : Snapshot} {request : SearchRequest}
    {elapsed : Binary64} {stage : SearchStage} {outcome : Except SearchError Json}
    (hmem : stage ∈ busy.searches)
    (horigin : stage.origin = (Service.start setup snapshot request elapsed).value)
    (houtcome : stage.outcome? = some outcome) :
    (ServiceOutcome.answered outcome).withoutTime =
      (snapshot.outcome setup refusal? (.search request elapsed)).withoutTime := by
  cases stage with
  | refused error =>
      cases houtcome
      rw [outcome_of_error horigin.symm]
  | reading pending => cases houtcome
  | missed pending => cases houtcome
  | answered pending given =>
      cases houtcome
      rw [outcome_of_ok horigin.symm]
      exact congrArg ServiceOutcome.answered (h.answered pending outcome hmem)

/-!
## The guarantee
-/

/-- A response under the key of some search, which but for the time answers every search with that
key from any snapshot of the version that the key was made with. -/
def AnswersItsVersion (setup : ServiceSetup) (pendings : List Pending) (snapshots : List Snapshot)
    (key : String) (response : Json) : Prop :=
  (exists pending, pending ∈ pendings ∧ pending.key = key ∧ pending.snapshot ∈ snapshots) ∧
    forall pending snapshot, pending ∈ pendings -> pending.key = key -> snapshot ∈ snapshots ->
      snapshot.version = pending.snapshot.version ->
      (Service.answer setup snapshot.catalog pending.request pending.sortKey pending.size
        pending.elapsed).value.map Json.withoutTime = .ok response.withoutTime

/-- What is kept belongs to the version in its key, a search that has taken its steps is over, its
outcome is the one of the snapshot that it read but for the time, and no search that is begun
after a catalog was put in is answered from a snapshot of before.  A search whose response is
refused ends with that refusal. -/
structure NeverStale (setup : ServiceSetup) (start : BusyService) (run : List BusyStep) : Prop where
  kept : (start.after setup run).service.backend.KeepsOnly
    (AnswersItsVersion setup (start.after setup run).begun (start.snapshots setup run))
  ends : forall later middle between request elapsed earlier place,
    place = (start.after setup earlier).searches.length ->
    run = later ++ .store place ::
      (middle ++ .lookUp place :: (between ++ .begin request elapsed :: earlier)) ->
    exists stage outcome, (start.after setup run).searches[place]? = some stage ∧
      stage.outcome? = some outcome
  answered : forall later request elapsed earlier stage outcome,
    run = later ++ .begin request elapsed :: earlier ->
    (start.after setup run).searches[(start.after setup earlier).searches.length]? = some stage ->
    stage.outcome? = some outcome ->
    (ServiceOutcome.answered outcome).withoutTime =
      ((start.after setup earlier).service.snapshot.outcome setup
        (start.service.backend.refusal? setup.cacheTtl) (.search request elapsed)).withoutTime
  refused_iff : forall error, start.service.backend.refusal? setup.cacheTtl = some error <->
    (exists cache, start.service.backend = .memory cache) ∧
      Magnitude.overflow ≤ setup.cacheTtl.natAbs ∧ error = .time .integerTooLarge
  never_earlier : forall later request elapsed middle catalog earlier stage outcome,
    run = later ++ .begin request elapsed :: (middle ++ .install catalog :: earlier) ->
    (start.after setup run).searches[
      (start.after setup (middle ++ .install catalog :: earlier)).searches.length]? = some stage ->
    stage.outcome? = some outcome ->
    exists snapshot, snapshot ∈ start.snapshots setup (middle ++ .install catalog :: earlier) ∧
      (forall old, old ∈ start.snapshots setup earlier -> old.version < snapshot.version) ∧
      (ServiceOutcome.answered outcome).withoutTime =
        (snapshot.outcome setup (start.service.backend.refusal? setup.cacheTtl)
          (.search request elapsed)).withoutTime

theorem over_of_begin {later middle between earlier : List BusyStep} {request : SearchRequest}
    {elapsed : Binary64} {place : Nat}
    (hplace : place = (start.after setup earlier).searches.length) :
    exists stage outcome,
      (start.after setup (later ++ .store place ::
        (middle ++ .lookUp place ::
          (between ++ .begin request elapsed :: earlier)))).searches[place]? = some stage ∧
      stage.outcome? = some outcome := by
  have hbegun : place <
      (start.after setup (between ++ .begin request elapsed :: earlier)).searches.length := by
    have hprefix :=
      (start.after setup (.begin request elapsed :: earlier)).origins_isPrefix_after setup between
    rw [← after_append] at hprefix
    have hlength := hprefix.length_le
    rw [List.length_map, List.length_map] at hlength
    refine Nat.lt_of_lt_of_le ?_ hlength
    rw [hplace, after, BusyService.step, begin, List.length_append]
    exact Nat.lt_succ_self _
  have hover := over_of_steps setup hbegun later middle
  rw [← after_append] at hover
  simpa using hover

theorem answersItsVersion_of_answersPast {snapshots : List Snapshot} {busy : BusyService}
    (h : Serves setup refusal? snapshots busy) (hversions : VersionsIdentify snapshots)
    (hseparates : DigestSeparates busy.begun) {key : String} {response : Json}
    (hkept : AnswersPast setup refusal? busy.begun key response) :
    AnswersItsVersion setup busy.begun snapshots key response := by
  constructor
  · rcases hkept with ⟨pending, hmem, hkey, _⟩
    exact ⟨pending, hmem, hkey, h.in_effect pending hmem⟩
  · rintro pending snapshot hmem rfl hsnapshot hversion
    have hsame : snapshot = pending.snapshot :=
      hversions _ _ hsnapshot (h.in_effect pending hmem) hversion
    have houtcome := h.outcome_of_kept hversions hseparates hmem hkept
    rw [Pending.outcome, map_given] at houtcome
    rw [hsame]
    exact (given_eq_ok_iff.mp houtcome.symm).2

def lampDesk : BusyService :=
  { service := ⟨lampSnapshot 0, .memory (.empty 2)⟩, now := .zero }

def swapInSearch : List BusyStep :=
  [.store 1, .lookUp 1, .store 0, .lookUp 0, .begin { query := "lamp" } .zero, .clear, .install [],
    .begin { query := "lamp" } .zero]

theorem begun_swapInSearch :
    (lampDesk.after {} swapInSearch).begun =
      [lampSearch 0, { lampSearch 1 with snapshot := ⟨[], 1⟩ }] := by
  simp only [swapInSearch, after, begun_step, List.append_nil]
  rfl

end BusyService

end CatalogSearch
