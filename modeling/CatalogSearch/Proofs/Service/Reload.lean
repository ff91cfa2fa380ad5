import CatalogSearch.Proofs.Service.Transparency

/-!
# Loading the catalog again

A catalog that is loaded again is put in as a whole or not at all.  If loading fails, the
service is the one it was.  If it succeeds, the version grows by one, and whatever is still
kept from before has no part in later searches: they show what a new service with the loaded
catalog shows, but for the time in a response that was kept since.
-/

namespace CatalogSearch

/-!
## The version is not shown
-/

namespace Snapshot

variable {first second : Snapshot}

theorem outcome_of_catalog_eq (setup : ServiceSetup) (refusal? : Option StoreError)
    (h : first.catalog = second.catalog) (step : ServiceStep) :
    first.outcome setup refusal? step = second.outcome setup refusal? step := by
  cases step with
  | search request elapsed =>
      simp only [outcome, Service.start, Reported.map_value]
      cases SearchRequest.effectiveSize setup.settings request with
      | error error => rfl
      | ok size =>
          simp only [Except.map, Except.bind, Service.Pending.answer]
          rw [h]
  | replace catalog => rfl
  | reload fetched files path url => rfl
  | advance now expired => rfl
  | outage reason => rfl

theorem after_catalog (h : first.catalog = second.catalog) (step : ServiceStep) :
    (first.after step).catalog = (second.after step).catalog := by
  cases step with
  | search request elapsed => exact h
  | replace catalog => rfl
  | reload fetched files path url =>
      simp only [after]
      cases (Catalog.loadFetched fetched files path url).1.value with
      | ok catalog => rfl
      | error error => exact h
  | advance now expired => exact h
  | outage reason => exact h

theorem outcomes_of_catalog_eq (setup : ServiceSetup) (refusal? : Option StoreError)
    (h : first.catalog = second.catalog) (steps : List ServiceStep) :
    first.outcomes setup refusal? steps = second.outcomes setup refusal? steps := by
  induction steps generalizing first second with
  | nil => rfl
  | cons step rest ih =>
      rw [outcomes, outcomes, outcome_of_catalog_eq setup refusal? h, ih (after_catalog h step)]

theorem afterSteps_catalog (h : first.catalog = second.catalog) (steps : List ServiceStep) :
    (first.afterSteps steps).catalog = (second.afterSteps steps).catalog := by
  induction steps generalizing first second with
  | nil => exact h
  | cons step rest ih => exact ih (after_catalog h step)

end Snapshot

namespace Service

/-!
## Runs that go on
-/

section Runs

variable {setup : ServiceSetup} {refusal? : Option StoreError} {past : List Pending}
  {session : TimedService}

theorem withoutTime_outcomes
    {steps : List ServiceStep} (hsound : Sound setup refusal? past session)
    (hpages : forall request elapsed, ServiceStep.search request elapsed ∈ steps ->
      request.page.isString = false)
    (hseparates : DigestSeparates (session.service.snapshot.searches setup steps ++ past)) :
    (session.outcomes setup steps).map ServiceOutcome.withoutTime =
      (session.service.snapshot.outcomes setup refusal? steps).map ServiceOutcome.withoutTime := by
  induction steps generalizing past session with
  | nil => rfl
  | cons first rest ih =>
      rw [Snapshot.searches] at hseparates
      have hfirst : DigestSeparates (started setup session.service.snapshot first ++ past) := by
        apply hseparates.subset
        intro pending hmem
        simp only [List.mem_append] at hmem ⊢
        tauto
      have hstep := step_sound first hsound
        (fun request elapsed heq => hpages request elapsed (heq ▸ List.mem_cons_self)) hfirst
      have hrest := ih hstep.2
        (fun request elapsed hmem => hpages request elapsed (List.mem_cons_of_mem _ hmem))
        (by
          rw [session.step_snapshot setup first]
          apply hseparates.subset
          intro pending hmem
          simp only [List.mem_append] at hmem ⊢
          tauto)
      rw [session.step_snapshot setup first] at hrest
      rw [TimedService.outcomes, Snapshot.outcomes, List.map_cons, List.map_cons,
        hstep.1.withoutTime_eq, hrest]

theorem withoutTime_outcomes_afterSteps
    {steps later : List ServiceStep} (hfresh : session.service.backend.IsFresh)
    (hpages : forall request elapsed, ServiceStep.search request elapsed ∈ steps ++ later ->
      request.page.isString = false)
    (hseparates : DigestSeparates (session.service.snapshot.searches setup (steps ++ later))) :
    ((session.afterSteps setup steps).outcomes setup later).map ServiceOutcome.withoutTime =
      ((session.service.snapshot.afterSteps steps).outcomes setup
        (session.service.backend.refusal? setup.cacheTtl) later).map
          ServiceOutcome.withoutTime := by
  rw [Snapshot.searches_append] at hseparates
  have hsteps : DigestSeparates (session.service.snapshot.searches setup steps ++ []) := by
    rw [List.append_nil]
    exact hseparates.subset (List.subset_append_left _ _)
  rcases sound_afterSteps (sound_of_isFresh hfresh)
    (fun request elapsed hmem => hpages request elapsed (List.mem_append_left _ hmem)) hsteps with
      ⟨past, hpast, hsound⟩
  rw [List.append_nil] at hpast
  rw [← session.afterSteps_snapshot setup]
  refine withoutTime_outcomes hsound
    (fun request elapsed hmem => hpages request elapsed (List.mem_append_right _ hmem))
    (hseparates.subset ?_)
  intro pending hmem
  rw [session.afterSteps_snapshot setup] at hmem
  rcases List.mem_append.mp hmem with hlater | hearlier
  · exact List.mem_append_right _ hlater
  · exact List.mem_append_left _ (hpast hearlier)

end Runs

/-!
## Failure and success
-/

structure UnchangedByReload (setup : ServiceSetup) (session : TimedService)
    (fetched : Except FetchError ByteArray) (files : Files) (path url : String)
    (error : LoadError) : Prop where
  load_eq : (Catalog.loadFetched fetched files path url).1.value = .error error
  raises : (session.service.reload fetched files path url).1.value.1 = .error error
  service_eq : (session.service.reload fetched files path url).1.value.2 = session.service
  shows_as_before : forall later : List ServiceStep,
    TimedService.outcomes setup session (.reload fetched files path url :: later) =
      .reloaded (.error error) :: TimedService.outcomes setup session later

/-- A service that loaded a catalog after the steps of a run.  It shows what a new service shows
that holds the catalog and keeps responses, or refuses them, as this one does.  Of two services
each measures its own times; beside a new service without a cache, a response shows another time
only if it was kept after the catalog was loaded. -/
structure RenewedByReload (setup : ServiceSetup) (start : TimedService) (steps : List ServiceStep)
    (fetched : Except FetchError ByteArray) (files : Files) (path url : String)
    (catalog : Catalog) : Prop where
  load_eq : (Catalog.loadFetched fetched files path url).1.value = .ok catalog
  counts : ((start.afterSteps setup steps).service.reload fetched files path url).1.value.1 =
    .ok catalog.length
  snapshot_eq :
    ((start.afterSteps setup steps).service.reload fetched files path url).1.value.2.snapshot =
      ⟨catalog, (start.afterSteps setup steps).service.snapshot.version + 1⟩
  shows_as_new : forall (later : List ServiceStep) (fresh : TimedService),
    fresh.service.snapshot.catalog = catalog -> fresh.service.backend.IsFresh ->
    fresh.service.backend.refusal? setup.cacheTtl =
      start.service.backend.refusal? setup.cacheTtl ->
    (forall request elapsed, ServiceStep.search request elapsed ∈ steps ++ later ->
      request.page.isString = false) ->
    DigestSeparates
      (start.service.snapshot.searches setup (steps ++ .reload fetched files path url :: later)) ->
    DigestSeparates (fresh.service.snapshot.searches setup later) ->
    (TimedService.outcomes setup (start.afterSteps setup steps)
        (.reload fetched files path url :: later)).map ServiceOutcome.withoutTime =
      .reloaded (.ok catalog.length) ::
        (TimedService.outcomes setup fresh later).map ServiceOutcome.withoutTime
  repeats_new : forall (later : List ServiceStep) (step : ServiceStep) (fresh : TimedService),
    fresh.service.snapshot.catalog = catalog -> fresh.service.backend = .none ->
    start.service.backend.refusal? setup.cacheTtl = none ->
    (forall request elapsed, ServiceStep.search request elapsed ∈ steps ++ (later ++ [step]) ->
      request.page.isString = false) ->
    DigestSeparates (start.service.snapshot.searches setup
      (steps ++ .reload fetched files path url :: (later ++ [step]))) ->
    ServiceOutcome.Repeats (TimedService.outcomes setup fresh later)
      ((TimedService.afterSteps setup (start.afterSteps setup steps)
        (.reload fetched files path url :: later)).step setup step).1
      ((fresh.afterSteps setup later).step setup step).1

theorem unchangedByReload
    {setup : ServiceSetup} {session : TimedService} {fetched : Except FetchError ByteArray}
    {files : Files} {path url : String} {error : LoadError}
    (h : (Catalog.loadFetched fetched files path url).1.value = .error error) :
    UnchangedByReload setup session fetched files path url error := by
  have hreload : (session.service.reload fetched files path url).1.value =
      (.error error, session.service) := by
    simp only [Service.reload, h]
  constructor
  · exact h
  · rw [hreload]
  · rw [hreload]
  · intro later
    simp only [TimedService.outcomes, TimedService.step, hreload]

section Renewed

variable {setup : ServiceSetup} {start : TimedService} {steps : List ServiceStep}
  {fetched : Except FetchError ByteArray} {files : Files} {path url : String} {catalog : Catalog}

theorem snapshot_of_reload (setup : ServiceSetup) (session : TimedService)
    (h : (Catalog.loadFetched fetched files path url).1.value = .ok catalog) :
    (session.step setup (.reload fetched files path url)).2.service.snapshot =
      ⟨catalog, session.service.snapshot.version + 1⟩ := by
  rw [TimedService.step_snapshot]
  simp only [Snapshot.after, h]

/-- After a catalog was loaded nothing of before is repeated, since no search of before shares the
version. -/
theorem repeats_of_reload
    (h : (Catalog.loadFetched fetched files path url).1.value = .ok catalog)
    (hfresh : start.service.backend.IsFresh) {later : List ServiceStep} {step : ServiceStep}
    (hpages : forall request elapsed, ServiceStep.search request elapsed ∈
      steps ++ (later ++ [step]) -> request.page.isString = false)
    (hseparates : DigestSeparates (start.service.snapshot.searches setup
      (steps ++ .reload fetched files path url :: (later ++ [step])))) :
    ServiceOutcome.Repeats
      (Snapshot.outcomes setup (start.service.backend.refusal? setup.cacheTtl)
        ⟨catalog, (start.afterSteps setup steps).service.snapshot.version + 1⟩ later)
      ((TimedService.afterSteps setup (start.afterSteps setup steps)
        (.reload fetched files path url :: later)).step setup step).1
      (Snapshot.outcome setup (start.service.backend.refusal? setup.cacheTtl)
        (Snapshot.afterSteps
          ⟨catalog, (start.afterSteps setup steps).service.snapshot.version + 1⟩ later) step) := by
  rw [Snapshot.searches_append] at hseparates
  have hsteps : DigestSeparates (start.service.snapshot.searches setup steps ++ []) := by
    rw [List.append_nil]
    exact hseparates.subset (List.subset_append_left _ _)
  rcases sound_afterSteps (sound_of_isFresh hfresh)
    (fun request elapsed hmem => hpages request elapsed (List.mem_append_left _ hmem)) hsteps with
      ⟨past, hpast, hsound⟩
  rw [List.append_nil] at hpast
  have hreload := (step_sound (.reload fetched files path url) hsound
    (fun request elapsed heq => by cases heq)
    (hseparates.subset fun pending hmem => List.mem_append_left _ (hpast hmem))).2
  have hsnapshot := snapshot_of_reload setup (start.afterSteps setup steps) h
  rw [← hsnapshot]
  refine hreload.repeats_afterSteps ?_
    (fun request elapsed hmem => hpages request elapsed (List.mem_append_right _ hmem)) ?_
  · intro pending hmem
    rw [hsnapshot]
    exact Nat.lt_succ_of_le (hsound.version_le pending hmem)
  · refine hseparates.subset fun pending hmem => ?_
    rcases List.mem_append.mp hmem with hlater | hearlier
    · rw [TimedService.step_snapshot, TimedService.afterSteps_snapshot] at hlater
      exact List.mem_append_right _ hlater
    · exact List.mem_append_left _ (hpast hearlier)

theorem renewedByReload
    (hfresh : start.service.backend.IsFresh)
    (h : (Catalog.loadFetched fetched files path url).1.value = .ok catalog) :
    RenewedByReload setup start steps fetched files path url catalog := by
  have hreload : ((start.afterSteps setup steps).service.reload fetched files path url).1.value =
      (.ok catalog.length,
        ((start.afterSteps setup steps).service.replaceCatalog catalog).value) := by
    simp only [Service.reload, h]
  constructor
  · exact h
  · rw [hreload]
  · rw [hreload]
    rfl
  · intro later fresh hcatalog hempty hrefusal hpages hseparates hfreshSeparates
    have hpagesAll : forall request elapsed,
        ServiceStep.search request elapsed ∈ steps ++ .reload fetched files path url :: later ->
          request.page.isString = false := by
      intro request elapsed hmem
      apply hpages request elapsed
      simpa using hmem
    have hafter : (start.service.snapshot.afterSteps steps).after (.reload fetched files path url) =
        ⟨catalog, (start.service.snapshot.afterSteps steps).version + 1⟩ := by
      simp only [Snapshot.after, h]
    have hcount : (start.service.snapshot.afterSteps steps).outcome setup
        (start.service.backend.refusal? setup.cacheTtl) (.reload fetched files path url) =
          .reloaded (.ok catalog.length) := by
      simp only [Snapshot.outcome, h]
      rfl
    have hnew : (TimedService.outcomes setup fresh later).map ServiceOutcome.withoutTime =
        (fresh.service.snapshot.outcomes setup (start.service.backend.refusal? setup.cacheTtl)
          later).map ServiceOutcome.withoutTime := by
      rw [← hrefusal]
      refine withoutTime_outcomes (sound_of_isFresh hempty)
        (fun request elapsed hmem => hpages request elapsed (List.mem_append_right _ hmem)) ?_
      rw [List.append_nil]
      exact hfreshSeparates
    have hversion := Snapshot.outcomes_of_catalog_eq setup
      (start.service.backend.refusal? setup.cacheTtl)
      (hcatalog.trans (congrArg Snapshot.catalog hafter).symm) later
    rw [withoutTime_outcomes_afterSteps hfresh hpagesAll hseparates, hnew, hversion,
      Snapshot.outcomes, List.map_cons, hcount]
    rfl
  · intro later step fresh hcatalog hnone hkept hpages hseparates
    have hrepeats := repeats_of_reload h hfresh hpages hseparates
    have huncached := outcomes_uncached setup fresh hnone later
    have hsame : fresh.service.snapshot.catalog = Snapshot.catalog
        ⟨catalog, (start.afterSteps setup steps).service.snapshot.version + 1⟩ := hcatalog
    rw [hkept] at hrepeats
    rw [huncached.1, (step_uncached setup huncached.2 step).1, TimedService.afterSteps_snapshot,
      Snapshot.outcomes_of_catalog_eq setup none hsame,
      Snapshot.outcome_of_catalog_eq setup none (Snapshot.afterSteps_catalog hsame later)]
    exact hrepeats

end Renewed

def lampService : TimedService :=
  ⟨⟨lampSnapshot 0, .memory (.empty 1)⟩, .zero⟩

def lampContent : ByteArray :=
  "[\x7b\x22id\x22: 1, \x22name\x22: \x22Lamp\x22\x7d]".toUTF8

end Service

end CatalogSearch
