import CatalogSearch.Proofs.Cache.Kept
import CatalogSearch.Proofs.Service.Answer

/-!
# Runs of a service

A run is a list of steps on one service: searches, catalogs put in or loaded again, time that
goes by, and a remote store that goes out of reach and comes back.  What a step shows and what
it does to the snapshot are first said without a cache, for a place that keeps responses or
refuses them.  A response that was kept tells the time that its own search took.
-/

namespace CatalogSearch

/-- One step of a run.  While time goes by, a remote store may drop entries. -/
inductive ServiceStep
  | search (request : SearchRequest) (elapsed : Binary64)
  | replace (catalog : Catalog)
  | reload (fetched : Except FetchError ByteArray) (files : Files) (path url : String)
  | advance (now : Binary64) (expired : List String)
  | outage (reason : Option String)

inductive ServiceOutcome
  | answered (response : Except SearchError Json)
  | replaced
  | reloaded (count : Except LoadError Nat)
  | silent

namespace ServiceOutcome

def withoutTime : ServiceOutcome -> ServiceOutcome
  | answered outcome => answered (outcome.map Json.withoutTime)
  | outcome => outcome

def refusedFor (error : StoreError) : ServiceOutcome -> ServiceOutcome
  | answered (.ok _) => answered (.error (.store error))
  | outcome => outcome

end ServiceOutcome

structure TimedService where
  service : Service
  now : Binary64

namespace Backend

def expire (expired : List String) : Backend -> Backend
  | remote store =>
      remote { store with entries := store.entries.filter fun entry => !expired.contains entry.1 }
  | backend => backend

def setOutage (reason : Option String) : Backend -> Backend
  | remote store => remote { store with outage := reason }
  | backend => backend

end Backend

namespace TimedService

open Service

def step (setup : ServiceSetup) (session : TimedService) :
    ServiceStep -> ServiceOutcome × TimedService
  | .search request elapsed =>
      let found := session.service.search setup session.now elapsed request
      (.answered (found.value.1.map Answered.response), { session with service := found.value.2 })
  | .replace catalog =>
      (.replaced, { session with service := (session.service.replaceCatalog catalog).value })
  | .reload fetched files path url =>
      let loaded := (session.service.reload fetched files path url).1
      (.reloaded loaded.value.1, { session with service := loaded.value.2 })
  | .advance now expired =>
      let backend := session.service.backend.expire expired
      (.silent, ⟨{ session.service with backend := backend }, now⟩)
  | .outage reason =>
      let backend := session.service.backend.setOutage reason
      (.silent, { session with service := { session.service with backend := backend } })

def outcomes (setup : ServiceSetup) : TimedService -> List ServiceStep -> List ServiceOutcome
  | _, [] => []
  | session, first :: rest =>
      (session.step setup first).1 :: outcomes setup (session.step setup first).2 rest

def afterSteps (setup : ServiceSetup) : TimedService -> List ServiceStep -> TimedService
  | session, [] => session
  | session, first :: rest => afterSteps setup (session.step setup first).2 rest

end TimedService

namespace Service

def started (setup : ServiceSetup) (snapshot : Snapshot) : ServiceStep -> List Pending
  | .search request elapsed => (start setup snapshot request elapsed).value.toOption.toList
  | _ => []

def given (refusal? : Option StoreError) : Except NumberError Json -> Except SearchError Json
  | .error error => .error (.number error)
  | .ok response => refusal?.elim (.ok response) fun error => .error (.store error)

def Pending.outcome (setup : ServiceSetup) (refusal? : Option StoreError) (pending : Pending) :
    Except SearchError Json :=
  given refusal? (pending.answer setup).value

end Service

namespace Snapshot

open Service

def after (snapshot : Snapshot) : ServiceStep -> Snapshot
  | .replace catalog => ⟨catalog, snapshot.version + 1⟩
  | .reload fetched files path url =>
      match (Catalog.loadFetched fetched files path url).1.value with
      | .ok catalog => ⟨catalog, snapshot.version + 1⟩
      | .error _ => snapshot
  | _ => snapshot

def afterSteps : Snapshot -> List ServiceStep -> Snapshot
  | snapshot, [] => snapshot
  | snapshot, first :: rest => afterSteps (snapshot.after first) rest

def outcome (setup : ServiceSetup) (refusal? : Option StoreError) (snapshot : Snapshot) :
    ServiceStep -> ServiceOutcome
  | .search request elapsed =>
      .answered (given refusal? ((start setup snapshot request elapsed).value.bind
        fun pending => (pending.answer setup).value))
  | .replace _ => .replaced
  | .reload fetched files path url =>
      .reloaded ((Catalog.loadFetched fetched files path url).1.value.map List.length)
  | _ => .silent

def outcomes (setup : ServiceSetup) (refusal? : Option StoreError) :
    Snapshot -> List ServiceStep -> List ServiceOutcome
  | _, [] => []
  | snapshot, first :: rest =>
      snapshot.outcome setup refusal? first :: outcomes setup refusal? (snapshot.after first) rest

def searches (setup : ServiceSetup) : Snapshot -> List ServiceStep -> List Pending
  | _, [] => []
  | snapshot, first :: rest =>
      started setup snapshot first ++ searches setup (snapshot.after first) rest

end Snapshot

/-!
## The snapshot of a session
-/

theorem Service.search_snapshot (setup : ServiceSetup) (now elapsed : Binary64) (service : Service)
    (request : SearchRequest) :
    (service.search setup now elapsed request).value.2.snapshot = service.snapshot := by
  simp only [Service.search]
  cases (start setup service.snapshot request elapsed).value with
  | ok pending => rfl
  | error error => rfl

/-- The cache has no part in what a step does to the snapshot. -/
theorem TimedService.step_snapshot (setup : ServiceSetup) (session : TimedService)
    (step : ServiceStep) :
    (session.step setup step).2.service.snapshot = session.service.snapshot.after step := by
  cases step with
  | search request elapsed =>
      exact Service.search_snapshot setup session.now elapsed session.service request
  | replace catalog => rfl
  | reload fetched files path url =>
      simp only [TimedService.step, Service.reload, Snapshot.after]
      cases (Catalog.loadFetched fetched files path url).1.value with
      | ok catalog => rfl
      | error error => rfl
  | advance now expired => rfl
  | outage reason => rfl

theorem TimedService.afterSteps_snapshot (setup : ServiceSetup) (session : TimedService)
    (steps : List ServiceStep) :
    (session.afterSteps setup steps).service.snapshot =
      session.service.snapshot.afterSteps steps := by
  induction steps generalizing session with
  | nil => rfl
  | cons first rest ih =>
      rw [TimedService.afterSteps, Snapshot.afterSteps, ih, TimedService.step_snapshot]

theorem Snapshot.version_le_after (snapshot : Snapshot) (step : ServiceStep) :
    snapshot.version ≤ (snapshot.after step).version := by
  cases step with
  | search request elapsed => exact Nat.le_refl _
  | replace catalog => exact Nat.le_succ _
  | reload fetched files path url =>
      simp only [Snapshot.after]
      cases (Catalog.loadFetched fetched files path url).1.value with
      | ok catalog => exact Nat.le_succ _
      | error error => exact Nat.le_refl _
  | advance now expired => exact Nat.le_refl _
  | outage reason => exact Nat.le_refl _

theorem Snapshot.version_le_afterSteps (snapshot : Snapshot) (steps : List ServiceStep) :
    snapshot.version ≤ (snapshot.afterSteps steps).version := by
  induction steps generalizing snapshot with
  | nil => exact Nat.le_refl _
  | cons first rest ih => exact Nat.le_trans (snapshot.version_le_after first) (ih _)

theorem Snapshot.after_eq_of_version_eq
    {snapshot : Snapshot} {step : ServiceStep}
    (h : (snapshot.after step).version = snapshot.version) :
    snapshot.after step = snapshot := by
  cases step with
  | search request elapsed => rfl
  | replace catalog => exact absurd h (Nat.succ_ne_self _)
  | reload fetched files path url =>
      simp only [Snapshot.after] at h ⊢
      cases hload : (Catalog.loadFetched fetched files path url).1.value with
      | ok catalog =>
          simp only [hload] at h
          exact absurd h (Nat.succ_ne_self _)
      | error error => rfl
  | advance now expired => rfl
  | outage reason => rfl

theorem Snapshot.searches_append (setup : ServiceSetup) (snapshot : Snapshot)
    (steps later : List ServiceStep) :
    searches setup snapshot (steps ++ later) =
      searches setup snapshot steps ++ searches setup (snapshot.afterSteps steps) later := by
  induction steps generalizing snapshot with
  | nil => rfl
  | cons first rest ih =>
      rw [List.cons_append, searches, searches, afterSteps, ih, List.append_assoc]

/-!
## Searches and what they give
-/

namespace Service

variable {setup : ServiceSetup} {snapshot : Snapshot} {request : SearchRequest} {elapsed : Binary64}
  {pending : Pending}

theorem started_of_ok (h : (start setup snapshot request elapsed).value = .ok pending) :
    started setup snapshot (.search request elapsed) = [pending] := by
  rw [started, h]
  rfl

theorem started_of_error {error : NumberError}
    (h : (start setup snapshot request elapsed).value = .error error) :
    started setup snapshot (.search request elapsed) = [] := by
  rw [started, h]
  rfl

/-- Only a search starts a search. -/
theorem mem_started {step : ServiceStep} (h : pending ∈ started setup snapshot step) :
    exists request elapsed, step = .search request elapsed ∧
      (start setup snapshot request elapsed).value = .ok pending := by
  cases step with
  | search request elapsed =>
      cases hstart : (start setup snapshot request elapsed).value with
      | error error =>
          rw [started_of_error hstart] at h
          cases h
      | ok other =>
          rw [started_of_ok hstart] at h
          exact ⟨request, elapsed, rfl, (List.mem_singleton.mp h) ▸ hstart⟩
  | replace catalog => cases h
  | reload fetched files path url => cases h
  | advance now expired => cases h
  | outage reason => cases h

theorem outcome_of_ok {refusal? : Option StoreError}
    (h : (start setup snapshot request elapsed).value = .ok pending) :
    snapshot.outcome setup refusal? (.search request elapsed) =
      .answered (pending.outcome setup refusal?) := by
  rw [Snapshot.outcome, h]
  rfl

theorem outcome_of_error {refusal? : Option StoreError} {error : NumberError}
    (h : (start setup snapshot request elapsed).value = .error error) :
    snapshot.outcome setup refusal? (.search request elapsed) =
      .answered (.error (.number error)) := by
  rw [Snapshot.outcome, h]
  rfl

theorem map_given (f : Json -> Json) (refusal? : Option StoreError)
    (answer : Except NumberError Json) :
    (given refusal? answer).map f = given refusal? (answer.map f) := by
  cases answer with
  | error error => rfl
  | ok response =>
      cases refusal? with
      | none => rfl
      | some error => rfl

theorem given_eq_ok_iff {refusal? : Option StoreError} {answer : Except NumberError Json}
    {response : Json} :
    given refusal? answer = .ok response <-> refusal? = none ∧ answer = .ok response := by
  cases answer with
  | error error => exact iff_of_false (fun h => by cases h) (fun h => by cases h.2)
  | ok other =>
      cases refusal? with
      | none => simp [given]
      | some error => exact iff_of_false (fun h => by cases h) (fun h => by cases h.1)

/-- A search gives a response only where it is kept. -/
theorem outcome_eq_ok_iff {refusal? : Option StoreError} {response : Json} :
    pending.outcome setup refusal? = .ok response <->
      refusal? = none ∧ (pending.answer setup).value = .ok response :=
  given_eq_ok_iff

theorem outcome_refusedFor (error : StoreError) (snapshot : Snapshot) (step : ServiceStep) :
    snapshot.outcome setup (some error) step =
      (snapshot.outcome setup none step).refusedFor error := by
  cases step with
  | search request elapsed =>
      simp only [Snapshot.outcome]
      cases (start setup snapshot request elapsed).value.bind
          fun pending => (pending.answer setup).value with
      | ok response => rfl
      | error cause => rfl
  | replace catalog => rfl
  | reload fetched files path url => rfl
  | advance now expired => rfl
  | outage reason => rfl

/-- What a search of a run gives is shown in the run. -/
theorem outcome_mem_outcomes {refusal? : Option StoreError} {steps : List ServiceStep}
    (h : pending ∈ snapshot.searches setup steps) :
    .answered (pending.outcome setup refusal?) ∈ snapshot.outcomes setup refusal? steps := by
  induction steps generalizing snapshot with
  | nil => cases h
  | cons first rest ih =>
      rcases List.mem_append.mp h with hfirst | hrest
      · rcases mem_started hfirst with ⟨request, elapsed, rfl, hstart⟩
        rw [Snapshot.outcomes, outcome_of_ok hstart]
        exact List.mem_cons_self
      · exact List.mem_cons_of_mem _ (ih hrest)

/-!
## Storing an answer
-/

/-- An answer that is refused ends the search and leaves what is kept.  One that is not refused is
kept beside it. -/
theorem storeAnswer_spec (setup : ServiceSetup) (now : Binary64) (pending : Pending)
    (backend : Backend) :
    (storeAnswer setup now pending backend).value.1.map Answered.response =
        pending.outcome setup (backend.refusal? setup.cacheTtl) ∧
      ((storeAnswer setup now pending backend).value.2 = backend ∨
        exists response,
          pending.outcome setup (backend.refusal? setup.cacheTtl) = .ok response ∧
            backend.refusal? setup.cacheTtl = none ∧
            (backend.set now pending.key response setup.cacheTtl).value =
              .ok (storeAnswer setup now pending backend).value.2) := by
  unfold Pending.outcome
  cases hanswer : (pending.answer setup).value with
  | error error =>
      have hvalue : (storeAnswer setup now pending backend).value =
          (.error (.number error), backend) := by
        simp only [storeAnswer, hanswer]
      rw [hvalue]
      exact ⟨rfl, Or.inl rfl⟩
  | ok response =>
      cases hrefusal : backend.refusal? setup.cacheTtl with
      | some error =>
          have hvalue : (storeAnswer setup now pending backend).value =
              (.error (.store error), backend) := by
            simp only [storeAnswer, hanswer,
              Backend.set_of_refusal now pending.key response hrefusal]
          rw [hvalue]
          exact ⟨rfl, Or.inl rfl⟩
      | none =>
          rcases Backend.exists_set now pending.key response hrefusal with ⟨after, hset, _⟩
          have hvalue : (storeAnswer setup now pending backend).value =
              (.ok ⟨response, pending.key, false⟩, after) := by
            simp only [storeAnswer, hanswer, hset]
          rw [hvalue]
          exact ⟨rfl, Or.inr ⟨response, rfl, rfl, hset⟩⟩

theorem storeAnswer_outcome (setup : ServiceSetup) (now : Binary64) (pending : Pending)
    (backend : Backend) :
    (storeAnswer setup now pending backend).value.1.map Answered.response =
      pending.outcome setup (backend.refusal? setup.cacheTtl) :=
  (storeAnswer_spec setup now pending backend).1

theorem storeAnswer_keepsOnly {setup : ServiceSetup} {pending : Pending} {backend : Backend}
    {property : String -> Json -> Prop} (now : Binary64) (hkeeps : backend.KeepsOnly property)
    (hproperty : forall response,
      pending.outcome setup (backend.refusal? setup.cacheTtl) = .ok response ->
        property pending.key response) :
    (storeAnswer setup now pending backend).value.2.KeepsOnly property := by
  rcases (storeAnswer_spec setup now pending backend).2 with hsame | ⟨response, hok, hnone, hset⟩
  · rw [hsame]
    exact hkeeps
  · rcases Backend.exists_set now pending.key response hnone with ⟨after, hafter, _, hkept⟩
    cases hafter.symm.trans hset
    exact hkept property hkeeps (hproperty response hok)

theorem refusal?_storeAnswer (setup : ServiceSetup) (now : Binary64) (pending : Pending)
    (backend : Backend) :
    (storeAnswer setup now pending backend).value.2.refusal? setup.cacheTtl =
      backend.refusal? setup.cacheTtl := by
  rcases (storeAnswer_spec setup now pending backend).2 with hsame | ⟨response, _, hnone, hset⟩
  · rw [hsame]
  · rcases Backend.exists_set now pending.key response hnone with ⟨after, hafter, hrefusal, _⟩
    cases hafter.symm.trans hset
    rw [hrefusal, hnone]

end Service

/-!
## What is refused stays refused
-/

namespace Backend

theorem refusal?_expire (ttl : Int) (backend : Backend) (expired : List String) :
    (backend.expire expired).refusal? ttl = backend.refusal? ttl := by
  cases backend with
  | none => rfl
  | memory cache => rfl
  | remote store => rfl

theorem refusal?_setOutage (ttl : Int) (backend : Backend) (reason : Option String) :
    (backend.setOutage reason).refusal? ttl = backend.refusal? ttl := by
  cases backend with
  | none => rfl
  | memory cache => rfl
  | remote store => rfl

end Backend

namespace TimedService

open Service

theorem refusal?_step (setup : ServiceSetup) (session : TimedService) (step : ServiceStep) :
    (session.step setup step).2.service.backend.refusal? setup.cacheTtl =
      session.service.backend.refusal? setup.cacheTtl := by
  cases step with
  | search request elapsed =>
      simp only [TimedService.step, Service.search]
      cases (start setup session.service.snapshot request elapsed).value with
      | error error => rfl
      | ok pending =>
          have hget := Backend.refusal?_get setup.cacheTtl session.service.backend session.now
            pending.key
          simp only [lookUp]
          cases hfound : (session.service.backend.get session.now pending.key).value with
          | mk found backend =>
              rw [hfound] at hget
              cases found with
              | some response => exact hget
              | none => exact (refusal?_storeAnswer setup session.now pending backend).trans hget
  | replace catalog => exact Backend.refusal?_clear _ _
  | reload fetched files path url =>
      simp only [TimedService.step, Service.reload]
      cases (Catalog.loadFetched fetched files path url).1.value with
      | ok catalog => exact Backend.refusal?_clear _ _
      | error error => rfl
  | advance now expired => exact Backend.refusal?_expire _ _ _
  | outage reason => exact Backend.refusal?_setOutage _ _ _

end TimedService

end CatalogSearch
