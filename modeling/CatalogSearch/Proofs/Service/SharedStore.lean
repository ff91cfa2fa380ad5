import CatalogSearch.Proofs.Service.Transparency

/-!
# Two services over one store

Two services may keep their responses in one remote store.  Each counts its versions on its
own, and a key names the version and the request but not the service, so that a search of one
may find what the other has put there.  What the store may hold is said of the steps of both
services alone; while each shows its own answers, the store holds just that.
-/

namespace CatalogSearch

open Service

inductive Side
  | left
  | right
  deriving DecidableEq

structure ServicePair where
  left : Snapshot
  right : Snapshot
  backend : Backend
  now : Binary64

namespace Backend

def inReach : Backend -> Bool
  | remote store => store.outage.isNone
  | _ => false

end Backend

namespace ServicePair

variable (setup : ServiceSetup)

def snapshot (pair : ServicePair) : Side -> Snapshot
  | .left => pair.left
  | .right => pair.right

def session (pair : ServicePair) (side : Side) : TimedService :=
  ⟨⟨pair.snapshot side, pair.backend⟩, pair.now⟩

def withSession (pair : ServicePair) (session : TimedService) : Side -> ServicePair
  | .left => ⟨session.service.snapshot, pair.right, session.service.backend, session.now⟩
  | .right => ⟨pair.left, session.service.snapshot, session.service.backend, session.now⟩

def step (pair : ServicePair) (side : Side) (step : ServiceStep) : ServiceOutcome × ServicePair :=
  let taken := (pair.session side).step setup step
  (taken.1, pair.withSession taken.2 side)

def after (pair : ServicePair) : List (Side × ServiceStep) -> ServicePair
  | [] => pair
  | (side, step) :: earlier => ((after pair earlier).step setup side step).2

def ShowsOwnAt (pair : ServicePair) (side : Side) (step : ServiceStep) : Prop :=
  (pair.step setup side step).1.withoutTime =
    ((pair.snapshot side).outcome setup none step).withoutTime

/-- The searches whose responses the store may still hold after a step, from those before it.  A
search is added, a catalog put in removes all, and so does time those whose keys expire.  While the
store is out of reach nothing is put there and nothing removed. -/
def heldAfter (pair : ServicePair) (side : Side) (held : List Pending) :
    ServiceStep -> List Pending
  | .search request elapsed =>
      if pair.backend.inReach then
        started setup (pair.snapshot side) (.search request elapsed) ++ held
      else held
  | .replace _ => if pair.backend.inReach then [] else held
  | .reload fetched files path url =>
      match (Catalog.loadFetched fetched files path url).1.value with
      | .ok _ => if pair.backend.inReach then [] else held
      | .error _ => held
  | .advance _ expired => held.filter fun pending => !expired.contains pending.key
  | .outage _ => held

def held (pair : ServicePair) : List (Side × ServiceStep) -> List Pending
  | [] => []
  | (side, step) :: earlier =>
      (pair.after setup earlier).heldAfter setup side (held pair earlier) step

/-- Every response that is held under the key of the search that a step starts is its own answer but
for the time, if it can be read back and the store is in reach. -/
def AgreesAt (pair : ServicePair) (side : Side) (held : List Pending) (step : ServiceStep) : Prop :=
  pair.backend.inReach = true ->
    forall pending, pending ∈ started setup (pair.snapshot side) step ->
      forall other, other ∈ held -> other.key = pending.key ->
        forall response, (other.answer setup).value = .ok response ->
          response.longInteger? = none ->
            (pending.answer setup).value.map Json.withoutTime = .ok response.withoutTime

/-!
## The snapshots
-/

variable {setup} {pair : ServicePair} {side : Side}

@[simp] theorem snapshot_withSession (session : TimedService) :
    (pair.withSession session side).snapshot side = session.service.snapshot := by
  cases side with
  | left => rfl
  | right => rfl

theorem snapshot_withSession_of_ne {other : Side} (session : TimedService) (h : other ≠ side) :
    (pair.withSession session side).snapshot other = pair.snapshot other := by
  cases side with
  | left =>
      cases other with
      | left => exact absurd rfl h
      | right => rfl
  | right =>
      cases other with
      | left => rfl
      | right => exact absurd rfl h

@[simp] theorem backend_withSession (session : TimedService) :
    (pair.withSession session side).backend = session.service.backend := by
  cases side with
  | left => rfl
  | right => rfl

theorem snapshot_after (start : ServicePair) (side : Side) (run : List (Side × ServiceStep)) :
    (start.after setup run).snapshot side =
      (run.filter fun taken => taken.1 = side).foldr (fun taken snapshot => snapshot.after taken.2)
        (start.snapshot side) := by
  induction run with
  | nil => rfl
  | cons taken earlier ih =>
      rcases taken with ⟨other, step⟩
      by_cases hside : other = side
      · subst hside
        rw [List.filter_cons_of_pos (by simp), List.foldr_cons, ← ih, after]
        simp only [ServicePair.step, snapshot_withSession, TimedService.step_snapshot]
        rfl
      · rw [List.filter_cons_of_neg (by simpa using hside), ← ih, after]
        exact snapshot_withSession_of_ne _ (Ne.symm hside)

end ServicePair

/-!
## Searches in a remote store
-/

namespace Service

variable {setup : ServiceSetup} {store : RemoteStore} {pending : Pending}

theorem lookUp_found (now : Binary64) {response : Json}
    (h : (store.get pending.key).value.map WideJson.shown = some response) :
    (lookUp setup now pending (.remote store)).value =
      (.ok ⟨response, pending.key, true⟩, .remote store) := by
  simp only [lookUp, Backend.get, Reported.map_value, h]

theorem lookUp_missed (now : Binary64)
    (h : (store.get pending.key).value.map WideJson.shown = none) :
    (lookUp setup now pending (.remote store)).value =
      (storeAnswer setup now pending (.remote store)).value := by
  simp only [lookUp, Backend.get, Reported.map_value, h]

theorem missed_of_outage {reason : String} (key : String) (h : store.outage = some reason) :
    (store.get key).value.map WideJson.shown = none := by
  rw [store.get_of_outage key h]
  rfl

theorem storeAnswer_backend_of_error (now : Binary64) {error : NumberError}
    (h : (pending.answer setup).value = .error error) (backend : Backend) :
    (storeAnswer setup now pending backend).value.2 = backend := by
  simp only [storeAnswer, h]

theorem storeAnswer_backend_of_ok (now : Binary64) {response : Json}
    (h : (pending.answer setup).value = .ok response) (houtage : store.outage = none) :
    (storeAnswer setup now pending (.remote store)).value.2 =
      .remote (store.put pending.key ⟨response.toText.toUTF8, some (max setup.cacheTtl 1)⟩) := by
  simp only [storeAnswer, h, Backend.set, RemoteStore.set, houtage, Json.encode_write]
  rfl

theorem storeAnswer_backend_of_outage (now : Binary64) {reason : String}
    (houtage : store.outage = some reason) :
    (storeAnswer setup now pending (.remote store)).value.2 = .remote store := by
  simp only [storeAnswer]
  cases (pending.answer setup).value with
  | error error => rfl
  | ok response =>
      simp only [Backend.set, RemoteStore.set, houtage]
      rfl

/-!
## What the store holds
-/

/-- A store has the bytes of an answer under a key that differs from a response in the time only. -/
def HoldsAlike (setup : ServiceSetup) (held : List Pending) (store : RemoteStore) (key : String)
    (response : Json) : Prop :=
  exists stored, AnswersPast setup none held key stored ∧
    stored.withoutTime = response.withoutTime ∧ stored.longInteger? = none ∧
      store.bytes? key = some stored.toText.toUTF8

/-- A store holds answers of some searches under the keys of this service, and of all of them that
can be read back one that is alike. -/
structure Holds (setup : ServiceSetup) (held : List Pending) (store : RemoteStore) : Prop where
  only : (Backend.remote store).KeepsOnly (AnswersPast setup none held)
  all : forall pending response, pending ∈ held -> (pending.answer setup).value = .ok response ->
    response.longInteger? = none -> HoldsAlike setup held store pending.key response

theorem HoldsAlike.mono {held later : List Pending} {key : String} {response : Json}
    (hsubset : held ⊆ later) (h : HoldsAlike setup held store key response) :
    HoldsAlike setup later store key response := by
  rcases h with ⟨stored, hstored, hrest⟩
  exact ⟨stored, hstored.mono hsubset, hrest⟩

namespace Holds

variable {held : List Pending}

theorem of_isFresh (h : (Backend.remote store).IsFresh) :
    Holds setup [] store := by
  constructor
  · exact h.keepsOnly _
  · intro pending response hmem
    cases hmem

theorem found (h : Holds setup held store) {key : String} (hown : Cache.IsOwn key) {response : Json}
    (hfound : (store.get key).value.map WideJson.shown = some response) :
    AnswersPast setup none held key response ∧ response.longInteger? = none :=
  Backend.keepsOnly_remote_get h.only hown AnswersPast.object hfound

theorem finds (h : Holds setup held store) (houtage : store.outage = none)
    (hmem : pending ∈ held) {response : Json}
    (hanswer : (pending.answer setup).value = .ok response)
    (hshort : response.longInteger? = none) :
    exists stored, (store.get pending.key).value.map WideJson.shown = some stored ∧
      stored.withoutTime = response.withoutTime := by
  rcases h.all pending response hmem hanswer hshort with
    ⟨stored, hstored, halike, hstoredShort, hbytes⟩
  rcases AnswersPast.object stored hstored with ⟨members, rfl, hnames⟩
  have hdecoded := RemoteStore.decodeResponse_toText pending.key hnames hstoredShort
  refine ⟨_, ?_, halike⟩
  simp only [RemoteStore.get, houtage, hbytes, hdecoded, Reported.plain, Option.map_some,
    Json.shown_wide]

/-- A search adds nothing if an answer like its own is in the store where it can be read back. -/
theorem keep (h : Holds setup held store)
    (hnew : forall response, (pending.answer setup).value = .ok response ->
      response.longInteger? = none -> HoldsAlike setup held store pending.key response) :
    Holds setup (pending :: held) store := by
  have hsubset := List.subset_cons_self pending held
  constructor
  · exact h.only.mono fun _ _ => AnswersPast.mono hsubset
  · intro other given hmem hgiven hshort
    rcases List.mem_cons.mp hmem with rfl | hmem
    · exact (hnew given hgiven hshort).mono hsubset
    · exact (h.all other given hmem hgiven hshort).mono hsubset

theorem hit (h : Holds setup held store) (hown : Cache.IsOwn pending.key) {response : Json}
    (hfound : (store.get pending.key).value.map WideJson.shown = some response)
    (hanswer : (pending.answer setup).value.map Json.withoutTime = .ok response.withoutTime) :
    Holds setup (pending :: held) store := by
  apply h.keep
  intro given hgiven _
  rcases h.found hown hfound with ⟨⟨earlier, hearlier, hkey, houtcome⟩, hshort⟩
  rw [hgiven] at hanswer
  rcases h.all earlier response hearlier (outcome_eq_ok_iff.mp houtcome).2 hshort with
    ⟨stored, hstored, halike, hrest⟩
  rw [hkey] at hstored hrest
  exact ⟨stored, hstored, halike.trans (Except.ok.inj hanswer).symm, hrest⟩

theorem fail (h : Holds setup held store) {error : NumberError}
    (hanswer : (pending.answer setup).value = .error error) :
    Holds setup (pending :: held) store := by
  apply h.keep
  intro given hgiven
  rw [hanswer] at hgiven
  cases hgiven

/-- An answer that is put under a key where none is found takes the place of none that can be read
back. -/
theorem put (h : Holds setup held store) (houtage : store.outage = none)
    (hmissed : (store.get pending.key).value.map WideJson.shown = none) {response : Json}
    (hanswer : (pending.answer setup).value = .ok response) :
    Holds setup (pending :: held)
      (store.put pending.key ⟨response.toText.toUTF8, some (max setup.cacheTtl 1)⟩) := by
  have hown : AnswersPast setup none (pending :: held) pending.key response :=
    ⟨pending, List.mem_cons_self, rfl, outcome_eq_ok_iff.mpr ⟨rfl, hanswer⟩⟩
  have hsubset := List.subset_cons_self pending held
  constructor
  · intro entry hmem hentry
    rcases List.mem_append.mp hmem with hrest | hlast
    · rcases h.only entry (List.mem_filter.mp hrest).1 hentry with ⟨kept, hkept, hbytes⟩
      exact ⟨kept, hkept.mono hsubset, hbytes⟩
    · rw [List.mem_singleton.mp hlast]
      exact ⟨response, hown, rfl⟩
  · intro other given hmem hgiven hshort
    rcases List.mem_cons.mp hmem with rfl | hmem
    · rw [hanswer] at hgiven
      cases hgiven
      exact ⟨response, hown, rfl, hshort, RemoteStore.bytes?_put _ _ _⟩
    · have hother : other.key ≠ pending.key := by
        intro hkey
        rcases h.finds houtage hmem hgiven hshort with ⟨stored, hfound, _⟩
        rw [hkey, hmissed] at hfound
        cases hfound
      rcases h.all other given hmem hgiven hshort with ⟨stored, hstored, halike, hlength, hbytes⟩
      refine ⟨stored, hstored.mono hsubset, halike, hlength, ?_⟩
      rw [RemoteStore.bytes?_put_of_ne _ _ hother]
      exact hbytes

theorem withoutOwn (store : RemoteStore) :
    Holds setup [] store.withoutOwn := by
  apply of_isFresh
  intro entry hmem hown
  have hkept := (List.mem_filter.mp hmem).2
  rw [hown] at hkept
  cases hkept

theorem expire (h : Holds setup held store) (expired : List String) :
    Holds setup (held.filter fun pending => !expired.contains pending.key)
      { store with entries := store.entries.filter fun entry => !expired.contains entry.1 } := by
  have hkept : forall key response, (!expired.contains key) = true ->
      AnswersPast setup none held key response ->
        AnswersPast setup none (held.filter fun pending => !expired.contains pending.key) key
          response := by
    rintro key response hkeep ⟨pending, hpending, rfl, houtcome⟩
    exact ⟨pending, List.mem_filter.mpr ⟨hpending, hkeep⟩, rfl, houtcome⟩
  constructor
  · intro entry hmem hown
    rcases List.mem_filter.mp hmem with ⟨hmem, hkeep⟩
    rcases h.only entry hmem hown with ⟨response, hresponse, hbytes⟩
    exact ⟨response, hkept _ _ hkeep hresponse, hbytes⟩
  · intro pending response hmem hanswer hshort
    rcases List.mem_filter.mp hmem with ⟨hmem, hkeep⟩
    rcases h.all pending response hmem hanswer hshort with
      ⟨stored, hstored, halike, hlength, hbytes⟩
    refine ⟨stored, hkept _ _ hkeep hstored, halike, hlength, ?_⟩
    rw [RemoteStore.bytes?, RemoteStore.lookup_filter_keys _ (fun name => !expired.contains name),
      if_pos hkeep]
    exact hbytes

theorem setOutage (h : Holds setup held store) (reason : Option String) :
    Holds setup held { store with outage := reason } :=
  ⟨h.only, h.all⟩

end Holds

end Service

namespace ServicePair

variable {setup : ServiceSetup} {pair : ServicePair} {side : Side} {store : RemoteStore}
  {held : List Pending}

/-!
## One step
-/

theorem showsOwnAt_search {request : SearchRequest} {elapsed : Binary64} {pending : Pending}
    (hstart : (start setup (pair.snapshot side) request elapsed).value = .ok pending) :
    pair.ShowsOwnAt setup side (.search request elapsed) <->
      ((lookUp setup pair.now pending pair.backend).value.1.map Answered.response).map
          Json.withoutTime =
        (pending.outcome setup none).map Json.withoutTime := by
  rw [ShowsOwnAt, outcome_of_ok hstart]
  simp only [step, session, TimedService.step, Service.search, hstart, ServiceOutcome.withoutTime,
    ServiceOutcome.answered.injEq]

theorem backend_search {request : SearchRequest} {elapsed : Binary64} {pending : Pending}
    (hstart : (start setup (pair.snapshot side) request elapsed).value = .ok pending) :
    (pair.step setup side (.search request elapsed)).2.backend =
      (lookUp setup pair.now pending pair.backend).value.2 := by
  simp only [step, session, TimedService.step, Service.search, hstart, backend_withSession]

theorem isOwn_of_start {snapshot : Snapshot} {request : SearchRequest} {elapsed : Binary64}
    {pending : Pending} (hstart : (start setup snapshot request elapsed).value = .ok pending) :
    Cache.IsOwn pending.key := by
  rw [(start_eq_ok hstart).2.2.1]
  exact Cache.isOwn_key _

theorem withoutTime_outcome_eq_ok_iff {pending : Pending} {response : Json} :
    (pending.outcome setup none).map Json.withoutTime = .ok response <->
      (pending.answer setup).value.map Json.withoutTime = .ok response := by
  rw [Pending.outcome, map_given, given_eq_ok_iff]
  exact and_iff_right rfl

/-- A search shows its own answer exactly if every held one under its key is the same. -/
theorem lookUp_shows_iff (h : Holds setup held store) (now : Binary64) {pending : Pending}
    (hown : Cache.IsOwn pending.key) (houtage : store.outage = none) :
    ((lookUp setup now pending (.remote store)).value.1.map Answered.response).map
          Json.withoutTime =
        (pending.outcome setup none).map Json.withoutTime <->
      forall other, other ∈ held -> other.key = pending.key ->
        forall response, (other.answer setup).value = .ok response ->
          response.longInteger? = none ->
            (pending.answer setup).value.map Json.withoutTime = .ok response.withoutTime := by
  cases hfound : (store.get pending.key).value.map WideJson.shown with
  | some response =>
      rw [lookUp_found now hfound]
      rcases h.found hown hfound with ⟨⟨other, hother, hkey, houtcome⟩, hshort⟩
      constructor
      · intro hshown same hsame hsameKey given hgiven hgivenShort
        rcases h.finds houtage hsame hgiven hgivenShort with ⟨stored, hagain, halike⟩
        rw [hsameKey, hfound] at hagain
        rw [← halike, ← Option.some.inj hagain]
        exact withoutTime_outcome_eq_ok_iff.mp hshown.symm
      · intro hagrees
        have hanswer := hagrees other hother hkey response (outcome_eq_ok_iff.mp houtcome).2 hshort
        exact (withoutTime_outcome_eq_ok_iff.mpr hanswer).symm
  | none =>
      rw [lookUp_missed now hfound]
      constructor
      · intro _ other hother hkey response hanswer hshort
        rcases h.finds houtage hother hanswer hshort with ⟨stored, hagain, _⟩
        rw [hkey, hfound] at hagain
        cases hagain
      · intro _
        rw [storeAnswer_outcome]
        rfl

theorem lookUp_holds (h : Holds setup held store) (now : Binary64) {pending : Pending}
    (hown : Cache.IsOwn pending.key)
    (hshown : ((lookUp setup now pending (.remote store)).value.1.map Answered.response).map
        Json.withoutTime =
      (pending.outcome setup none).map Json.withoutTime) :
    exists later, (lookUp setup now pending (.remote store)).value.2 = .remote later ∧
      Holds setup (if store.outage.isNone then [pending] ++ held else held) later := by
  cases houtage : store.outage with
  | some reason =>
      rw [lookUp_missed now (missed_of_outage pending.key houtage),
        storeAnswer_backend_of_outage now houtage]
      exact ⟨store, rfl, h⟩
  | none =>
      cases hfound : (store.get pending.key).value.map WideJson.shown with
      | some response =>
          rw [lookUp_found now hfound] at hshown ⊢
          exact ⟨store, rfl, h.hit hown hfound (withoutTime_outcome_eq_ok_iff.mp hshown.symm)⟩
      | none =>
          rw [lookUp_missed now hfound]
          cases hanswer : (pending.answer setup).value with
          | error error =>
              rw [storeAnswer_backend_of_error now hanswer]
              exact ⟨store, rfl, h.fail hanswer⟩
          | ok response =>
              rw [storeAnswer_backend_of_ok now hanswer houtage]
              exact ⟨_, rfl, h.put houtage hfound hanswer⟩

theorem swap_holds (hremote : pair.backend = .remote store) (h : Holds setup held store) :
    exists later, pair.backend.clear.value = .remote later ∧
      Holds setup (if pair.backend.inReach then [] else held) later := by
  simp only [hremote, Backend.clear, RemoteStore.clear, Backend.inReach]
  cases store.outage with
  | none => exact ⟨store.withoutOwn, rfl, Holds.withoutOwn store⟩
  | some reason => exact ⟨store, rfl, h⟩

theorem showsOwnAt_reload {fetched : Except FetchError ByteArray} {files : Files}
    {path url : String} :
    pair.ShowsOwnAt setup side (.reload fetched files path url) := by
  simp only [ShowsOwnAt, step, session, TimedService.step, Service.reload, Snapshot.outcome]
  cases (Catalog.loadFetched fetched files path url).1.value with
  | ok catalog => rfl
  | error error => rfl

theorem agreesAt_of_no_search {step : ServiceStep}
    (h : started setup (pair.snapshot side) step = []) :
    pair.AgreesAt setup side held step := by
  intro _ pending hmem
  rw [h] at hmem
  cases hmem

/-- A step of one of the services shows its own answer exactly if what is held agrees with it. -/
theorem showsOwnAt_iff (hremote : pair.backend = .remote store) (h : Holds setup held store)
    (step : ServiceStep) :
    pair.ShowsOwnAt setup side step <-> pair.AgreesAt setup side held step := by
  cases step with
  | search request elapsed =>
      cases hstart : (start setup (pair.snapshot side) request elapsed).value with
      | error error =>
          refine iff_of_true ?_ (agreesAt_of_no_search (started_of_error hstart))
          rw [ShowsOwnAt, outcome_of_error hstart]
          simp only [ServicePair.step, session, TimedService.step, Service.search, hstart]
          rfl
      | ok pending =>
          simp only [showsOwnAt_search hstart, AgreesAt, started_of_ok hstart, hremote,
            Backend.inReach, List.mem_singleton, forall_eq]
          cases houtage : store.outage with
          | none => simpa using lookUp_shows_iff h pair.now (isOwn_of_start hstart) houtage
          | some reason =>
              rw [lookUp_missed _ (missed_of_outage pending.key houtage), storeAnswer_outcome]
              simp [Backend.refusal?]
  | replace catalog => exact iff_of_true rfl (agreesAt_of_no_search rfl)
  | reload fetched files path url => exact iff_of_true showsOwnAt_reload (agreesAt_of_no_search rfl)
  | advance now expired => exact iff_of_true rfl (agreesAt_of_no_search rfl)
  | outage reason => exact iff_of_true rfl (agreesAt_of_no_search rfl)

theorem step_holds (hremote : pair.backend = .remote store) (h : Holds setup held store)
    {step : ServiceStep} (hshown : pair.ShowsOwnAt setup side step) :
    exists later, (pair.step setup side step).2.backend = .remote later ∧
      Holds setup (pair.heldAfter setup side held step) later := by
  cases step with
  | search request elapsed =>
      cases hstart : (start setup (pair.snapshot side) request elapsed).value with
      | error error =>
          refine ⟨store, ?_, ?_⟩
          · simp only [ServicePair.step, session, TimedService.step, Service.search, hstart,
              backend_withSession, hremote]
          · simpa [heldAfter, started_of_error hstart] using h
      | ok pending =>
          rw [backend_search hstart]
          rw [showsOwnAt_search hstart] at hshown
          simp only [heldAfter, started_of_ok hstart, hremote, Backend.inReach] at hshown ⊢
          exact lookUp_holds h pair.now (isOwn_of_start hstart) hshown
  | replace catalog =>
      simp only [ServicePair.step, session, TimedService.step, backend_withSession]
      exact swap_holds hremote h
  | reload fetched files path url =>
      simp only [ServicePair.step, session, TimedService.step, Service.reload, heldAfter,
        backend_withSession]
      cases (Catalog.loadFetched fetched files path url).1.value with
      | ok catalog => exact swap_holds hremote h
      | error error => exact ⟨store, hremote, h⟩
  | advance now expired =>
      refine ⟨_, ?_, h.expire expired⟩
      simp only [ServicePair.step, session, TimedService.step, backend_withSession, hremote]
      rfl
  | outage reason =>
      refine ⟨_, ?_, h.setOutage reason⟩
      simp only [ServicePair.step, session, TimedService.step, backend_withSession, hremote]
      rfl

end ServicePair

end CatalogSearch
