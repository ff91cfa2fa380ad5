import CatalogSearch.Proofs.Service.Run

/-!
# Searches under way

Searches of one service may be under way at the same time.  Each of them reads the snapshot,
looks its key up and, if it finds nothing, stores its answer; between these steps others take
theirs.  A new catalog is put in first and the kept responses are removed afterwards, and
something may come between the two as well.  Taken one right after the other, the steps are the
whole search and the whole replacement of a catalog.
-/

namespace CatalogSearch

open Service

inductive SearchStage
  /-- The search could not be started. -/
  | refused (error : NumberError)
  /-- The search has read its snapshot. -/
  | reading (pending : Pending)
  /-- The search has found no response under its key. -/
  | missed (pending : Pending)
  /-- The search is over. -/
  | answered (pending : Pending) (outcome : Except SearchError Json)

namespace SearchStage

def ofStart : Except NumberError Pending -> SearchStage
  | .ok pending => reading pending
  | .error error => refused error

def ofLookUp (pending : Pending) : Option Json -> SearchStage
  | some response => answered pending (.ok response)
  | none => missed pending

def origin : SearchStage -> Except NumberError Pending
  | refused error => .error error
  | reading pending => .ok pending
  | missed pending => .ok pending
  | answered pending _ => .ok pending

def outcome? : SearchStage -> Option (Except SearchError Json)
  | refused error => some (.error (.number error))
  | reading _ => none
  | missed _ => none
  | answered _ outcome => some outcome

@[simp] theorem origin_ofStart (started : Except NumberError Pending) :
    (ofStart started).origin = started := by
  cases started with
  | ok pending => rfl
  | error error => rfl

end SearchStage

structure BusyService where
  service : Service
  now : Binary64
  searches : List SearchStage := []

/-- One step of a search, known by its place in the order, or of something else.  While time goes
by, a remote store may drop entries. -/
inductive BusyStep
  | begin (request : SearchRequest) (elapsed : Binary64)
  | lookUp (place : Nat)
  | store (place : Nat)
  | install (catalog : Catalog)
  | clear
  | advance (now : Binary64) (expired : List String)
  | outage (reason : Option String)

namespace BusyService

variable (setup : ServiceSetup)

def withBackend (busy : BusyService) (backend : Backend) : BusyService :=
  { busy with service := { busy.service with backend := backend } }

def withStage (busy : BusyService) (place : Nat) (stage : SearchStage) : BusyService :=
  { busy with searches := busy.searches.set place stage }

def begin (busy : BusyService) (request : SearchRequest) (elapsed : Binary64) : BusyService :=
  { busy with
    searches :=
      busy.searches ++ [.ofStart (start setup busy.service.snapshot request elapsed).value] }

def lookUp (busy : BusyService) (place : Nat) : BusyService :=
  match busy.searches[place]? with
  | some (.reading pending) =>
      let found := (busy.service.backend.get busy.now pending.key).value
      (busy.withBackend found.2).withStage place (.ofLookUp pending found.1)
  | _ => busy

def store (busy : BusyService) (place : Nat) : BusyService :=
  match busy.searches[place]? with
  | some (.missed pending) =>
      let stored := (storeAnswer setup busy.now pending busy.service.backend).value
      (busy.withBackend stored.2).withStage place
        (.answered pending (stored.1.map Answered.response))
  | _ => busy

def install (busy : BusyService) (catalog : Catalog) : BusyService :=
  { busy with
    service := { busy.service with snapshot := ⟨catalog, busy.service.snapshot.version + 1⟩ } }

def clear (busy : BusyService) : BusyService :=
  busy.withBackend busy.service.backend.clear.value

def step (busy : BusyService) : BusyStep -> BusyService
  | .begin request elapsed => busy.begin setup request elapsed
  | .lookUp place => busy.lookUp place
  | .store place => busy.store setup place
  | .install catalog => busy.install catalog
  | .clear => busy.clear
  | .advance now expired =>
      { busy.withBackend (busy.service.backend.expire expired) with now := now }
  | .outage reason => busy.withBackend (busy.service.backend.setOutage reason)

def after (busy : BusyService) : List BusyStep -> BusyService
  | [] => busy
  | step :: earlier => (after busy earlier).step setup step

def snapshots (busy : BusyService) : List BusyStep -> List Snapshot
  | [] => [busy.service.snapshot]
  | step :: earlier =>
      (busy.after setup (step :: earlier)).service.snapshot :: snapshots busy earlier

def begun (busy : BusyService) : List Pending :=
  (busy.searches.map SearchStage.origin).filterMap Except.toOption

/-!
## Whole operations
-/

variable (busy : BusyService)

theorem after_append (later earlier : List BusyStep) :
    busy.after setup (later ++ earlier) = (busy.after setup earlier).after setup later := by
  induction later with
  | nil => rfl
  | cons step later ih => rw [List.cons_append, after, after, ih]

@[simp] theorem begin_service (request : SearchRequest) (elapsed : Binary64) :
    (busy.begin setup request elapsed).service = busy.service := rfl

@[simp] theorem begin_now (request : SearchRequest) (elapsed : Binary64) :
    (busy.begin setup request elapsed).now = busy.now := rfl

theorem stage_begin (request : SearchRequest) (elapsed : Binary64) :
    (busy.begin setup request elapsed).searches[busy.searches.length]? =
      some (.ofStart (start setup busy.service.snapshot request elapsed).value) :=
  List.getElem?_concat_length

theorem stage_withStage {place : Nat} (h : place < busy.searches.length)
    (stage : SearchStage) : (busy.withStage place stage).searches[place]? = some stage :=
  List.getElem?_set_self h

section Stages

variable {setup} {busy} {place : Nat} {pending : Pending}

theorem lookUp_of_reading (h : busy.searches[place]? = some (.reading pending)) :
    busy.lookUp place =
      (busy.withBackend (busy.service.backend.get busy.now pending.key).value.2).withStage place
        (.ofLookUp pending (busy.service.backend.get busy.now pending.key).value.1) := by
  simp only [lookUp, h]

theorem stage_lookUp (h : busy.searches[place]? = some (.reading pending)) :
    (busy.lookUp place).searches[place]? =
      some (.ofLookUp pending (busy.service.backend.get busy.now pending.key).value.1) := by
  rw [lookUp_of_reading h]
  exact stage_withStage (busy.withBackend _) (List.getElem?_eq_some_iff.mp h).1 _

theorem lookUp_of_other (h : forall pending, busy.searches[place]? ≠ some (.reading pending)) :
    busy.lookUp place = busy := by
  unfold lookUp
  split
  · rename_i pending hreading
    exact absurd hreading (h pending)
  · rfl

theorem store_of_missed (h : busy.searches[place]? = some (.missed pending)) :
    busy.store setup place =
      (busy.withBackend
        (storeAnswer setup busy.now pending busy.service.backend).value.2).withStage place
          (.answered pending
            ((storeAnswer setup busy.now pending busy.service.backend).value.1.map
              Answered.response)) := by
  simp only [store, h]

theorem store_of_other (h : forall pending, busy.searches[place]? ≠ some (.missed pending)) :
    busy.store setup place = busy := by
  unfold store
  split
  · rename_i pending hmissed
    exact absurd hmissed (h pending)
  · rfl

theorem stage_store (h : busy.searches[place]? = some (.missed pending)) :
    (busy.store setup place).searches[place]? =
      some (.answered pending
        ((storeAnswer setup busy.now pending busy.service.backend).value.1.map
          Answered.response)) := by
  rw [store_of_missed h]
  exact stage_withStage (busy.withBackend _) (List.getElem?_eq_some_iff.mp h).1 _

end Stages

/-- The steps of a search with nothing in between are the whole search. -/
theorem search_eq_steps (request : SearchRequest) (elapsed : Binary64) :
    (busy.after setup [.store busy.searches.length, .lookUp busy.searches.length,
        .begin request elapsed]).service =
          (busy.service.search setup busy.now elapsed request).value.2 ∧
      ((busy.after setup [.store busy.searches.length, .lookUp busy.searches.length,
        .begin request elapsed]).searches[busy.searches.length]?).bind SearchStage.outcome? =
          some ((busy.service.search setup busy.now elapsed request).value.1.map
            Answered.response) := by
  have hplace := busy.stage_begin setup request elapsed
  simp only [after, step, Service.search]
  cases hstart : (start setup busy.service.snapshot request elapsed).value with
  | error error =>
      rw [hstart] at hplace
      have hlookUp : (busy.begin setup request elapsed).lookUp busy.searches.length =
          busy.begin setup request elapsed := by
        refine lookUp_of_other fun pending hreading => ?_
        cases hplace.symm.trans hreading
      have hstore : (busy.begin setup request elapsed).store setup busy.searches.length =
          busy.begin setup request elapsed := by
        refine store_of_other fun pending hmissed => ?_
        cases hplace.symm.trans hmissed
      rw [hlookUp, hstore, hplace]
      exact ⟨rfl, rfl⟩
  | ok pending =>
      rw [hstart] at hplace
      have hlength := List.getElem?_eq_some_iff.mp hplace
      rw [lookUp_of_reading hplace, begin_service, begin_now]
      simp only [Service.lookUp]
      cases hfound : (busy.service.backend.get busy.now pending.key).value with
      | mk found backend =>
          have hstage : (((busy.begin setup request elapsed).withBackend backend).withStage
              busy.searches.length (.ofLookUp pending found)).searches[busy.searches.length]? =
                some (.ofLookUp pending found) := stage_withStage _ hlength.1 _
          cases found with
          | some response =>
              rw [store_of_other fun _ hmissed => by cases hstage.symm.trans hmissed]
              constructor
              · rfl
              · simp only [hstage]
                rfl
          | none =>
              constructor
              · rw [store_of_missed hstage]
                rfl
              · rw [stage_store hstage]
                rfl

theorem replaceCatalog_eq_steps (catalog : Catalog) :
    busy.after setup [.clear, .install catalog] =
      { busy with service := (busy.service.replaceCatalog catalog).value } := rfl

/-!
## Versions
-/

theorem step_snapshot (step : BusyStep) :
    (busy.step setup step).service.snapshot = busy.service.snapshot ∨
      exists catalog, step = .install catalog ∧
        (busy.step setup step).service.snapshot = ⟨catalog, busy.service.snapshot.version + 1⟩ := by
  cases step with
  | begin request elapsed => exact Or.inl rfl
  | lookUp place =>
      left
      simp only [BusyService.step, lookUp]
      split <;> rfl
  | store place =>
      left
      simp only [BusyService.step, store]
      split <;> rfl
  | install catalog => exact Or.inr ⟨catalog, rfl, rfl⟩
  | clear => exact Or.inl rfl
  | advance now expired => exact Or.inl rfl
  | outage reason => exact Or.inl rfl

theorem version_le_step (step : BusyStep) :
    busy.service.snapshot.version ≤ (busy.step setup step).service.snapshot.version := by
  rcases busy.step_snapshot setup step with hsame | ⟨catalog, _, hnext⟩
  · exact Nat.le_of_eq (congrArg Snapshot.version hsame.symm)
  · rw [hnext]
    exact Nat.le_succ _

theorem version_le_after (run : List BusyStep) :
    busy.service.snapshot.version ≤ (busy.after setup run).service.snapshot.version := by
  induction run with
  | nil => exact Nat.le_refl _
  | cons step earlier ih => exact Nat.le_trans ih (version_le_step setup _ step)

theorem snapshot_mem_snapshots (run : List BusyStep) :
    (busy.after setup run).service.snapshot ∈ busy.snapshots setup run := by
  cases run with
  | nil => exact List.mem_cons_self
  | cons step earlier => exact List.mem_cons_self

theorem version_le_of_mem_snapshots {run : List BusyStep} {snapshot : Snapshot}
    (h : snapshot ∈ busy.snapshots setup run) :
    snapshot.version ≤ (busy.after setup run).service.snapshot.version := by
  induction run with
  | nil =>
      rw [List.mem_singleton.mp h]
      exact Nat.le_refl _
  | cons step earlier ih =>
      rcases List.mem_cons.mp h with hlast | hbefore
      · exact Nat.le_of_eq (congrArg Snapshot.version hlast)
      · exact Nat.le_trans (ih hbefore) (version_le_step setup _ step)

/-- No version is used for two snapshots. -/
theorem snapshot_eq_of_version_eq {run : List BusyStep} {first second : Snapshot}
    (hfirst : first ∈ busy.snapshots setup run) (hsecond : second ∈ busy.snapshots setup run)
    (h : first.version = second.version) : first = second := by
  induction run generalizing first second with
  | nil => rw [List.mem_singleton.mp hfirst, List.mem_singleton.mp hsecond]
  | cons step earlier ih =>
      -- A snapshot from before the last step is the new one only if that step put nothing in.
      have hold : forall old, old ∈ busy.snapshots setup earlier ->
          old.version = (busy.after setup (step :: earlier)).service.snapshot.version ->
            old = (busy.after setup (step :: earlier)).service.snapshot := by
        intro old hmem hversion
        have hle := version_le_of_mem_snapshots setup busy hmem
        rcases (busy.after setup earlier).step_snapshot setup step with
          hsame | ⟨catalog, _, hnext⟩
        · rw [after, hsame] at hversion ⊢
          exact ih hmem (snapshot_mem_snapshots setup busy earlier) hversion
        · rw [after, hnext] at hversion
          simp only at hversion
          omega
      rcases List.mem_cons.mp hfirst with hlast | hbefore
      · rcases List.mem_cons.mp hsecond with hlast' | hbefore'
        · rw [hlast, hlast']
        · rw [hlast]
          exact (hold second hbefore' (h.symm.trans (congrArg _ hlast))).symm
      · rcases List.mem_cons.mp hsecond with hlast' | hbefore'
        · rw [hlast']
          exact hold first hbefore (h.trans (congrArg _ hlast'))
        · exact ih hbefore hbefore' h

/-!
## Begun searches
-/

theorem origins_withStage {place : Nat} {old stage : SearchStage}
    (hplace : busy.searches[place]? = some old) (horigin : stage.origin = old.origin) :
    (busy.withStage place stage).searches.map SearchStage.origin =
      busy.searches.map SearchStage.origin := by
  rcases List.getElem?_eq_some_iff.mp hplace with ⟨hlength, rfl⟩
  apply List.ext_getElem
  · simp [withStage]
  · intro other hother hbefore
    simp only [withStage, List.getElem_map, List.getElem_set]
    split
    · rename_i hsame
      subst hsame
      exact horigin
    · rfl

theorem origin_ofLookUp (pending : Pending) (found : Option Json) :
    (SearchStage.ofLookUp pending found).origin = .ok pending := by
  cases found with
  | none => rfl
  | some response => rfl

theorem origins_step (step : BusyStep) :
    (busy.step setup step).searches.map SearchStage.origin =
      busy.searches.map SearchStage.origin ++
        match step with
        | .begin request elapsed => [(start setup busy.service.snapshot request elapsed).value]
        | _ => [] := by
  cases step with
  | begin request elapsed => simp [BusyService.step, begin]
  | lookUp place =>
      simp only [BusyService.step, lookUp, List.append_nil]
      split
      · rename_i pending hreading
        exact origins_withStage (busy.withBackend _) hreading (origin_ofLookUp _ _)
      · rfl
  | store place =>
      simp only [BusyService.step, store, List.append_nil]
      split
      · rename_i pending hmissed
        exact origins_withStage (busy.withBackend _) hmissed rfl
      · rfl
  | install catalog => exact (List.append_nil _).symm
  | clear => exact (List.append_nil _).symm
  | advance now expired => exact (List.append_nil _).symm
  | outage reason => exact (List.append_nil _).symm

theorem origins_isPrefix_after (run : List BusyStep) :
    busy.searches.map SearchStage.origin <+:
      (busy.after setup run).searches.map SearchStage.origin := by
  induction run with
  | nil => exact List.prefix_rfl
  | cons step earlier ih =>
      rw [after, origins_step]
      exact ih.trans (List.prefix_append _ _)

theorem begun_step (step : BusyStep) :
    (busy.step setup step).begun =
      busy.begun ++
        match step with
        | .begin request elapsed =>
            (start setup busy.service.snapshot request elapsed).value.toOption.toList
        | _ => [] := by
  rw [begun, origins_step, List.filterMap_append]
  cases step with
  | begin request elapsed =>
      simp only [begun, List.filterMap_cons, List.filterMap_nil]
      cases (start setup busy.service.snapshot request elapsed).value with
      | ok pending => rfl
      | error error => rfl
  | _ => rfl

/-- The search that a run begins at some step is known, whatever happens later, by its place. -/
theorem origin_of_begin {later earlier : List BusyStep} {request : SearchRequest}
    {elapsed : Binary64} {stage : SearchStage}
    (h : (busy.after setup (later ++ .begin request elapsed :: earlier)).searches[
      (busy.after setup earlier).searches.length]? = some stage) :
    stage.origin =
      (start setup (busy.after setup earlier).service.snapshot request elapsed).value := by
  have hbegin :
      ((busy.after setup (.begin request elapsed :: earlier)).searches.map SearchStage.origin)[
        (busy.after setup earlier).searches.length]? =
          some (start setup (busy.after setup earlier).service.snapshot request elapsed).value := by
    rw [List.getElem?_map, after, step, stage_begin, Option.map_some, SearchStage.origin_ofStart]
  have hprefix := (busy.after setup (.begin request elapsed :: earlier)).origins_isPrefix_after
    setup later
  rw [← after_append] at hprefix
  rcases hprefix with ⟨rest, hrest⟩
  have hkept : ((busy.after setup (later ++ .begin request elapsed :: earlier)).searches.map
      SearchStage.origin)[(busy.after setup earlier).searches.length]? =
        some (start setup (busy.after setup earlier).service.snapshot request elapsed).value := by
    rw [← hrest, List.getElem?_append_left (List.getElem?_eq_some_iff.mp hbegin).1]
    exact hbegin
  rw [List.getElem?_map, h] at hkept
  exact Option.some.inj hkept

/-!
## The end of a search
-/

theorem stage_step {busy : BusyService} {place : Nat} {stage : SearchStage}
    (h : busy.searches[place]? = some stage) (step : BusyStep) :
    (busy.step setup step).searches[place]? = some stage ∨
      (exists pending found, stage = .reading pending ∧
        (busy.step setup step).searches[place]? = some (.ofLookUp pending found)) ∨
      exists pending outcome, stage = .missed pending ∧
        (busy.step setup step).searches[place]? = some (.answered pending outcome) := by
  have hlength := (List.getElem?_eq_some_iff.mp h).1
  cases step with
  | begin request elapsed =>
      left
      rw [← h]
      exact List.getElem?_append_left hlength
  | lookUp other =>
      by_cases hreading : exists pending, busy.searches[other]? = some (.reading pending)
      · rcases hreading with ⟨pending, hreading⟩
        by_cases hsame : other = place
        · right; left
          subst hsame
          exact ⟨pending, _, Option.some.inj (h.symm.trans hreading), stage_lookUp hreading⟩
        · left
          rw [← h, BusyService.step, lookUp_of_reading hreading]
          exact List.getElem?_set_ne hsame
      · left
        rw [BusyService.step, lookUp_of_other fun pending heq => hreading ⟨pending, heq⟩]
        exact h
  | store other =>
      by_cases hmissed : exists pending, busy.searches[other]? = some (.missed pending)
      · rcases hmissed with ⟨pending, hmissed⟩
        by_cases hsame : other = place
        · right; right
          subst hsame
          exact ⟨pending, _, Option.some.inj (h.symm.trans hmissed), stage_store hmissed⟩
        · left
          rw [← h, BusyService.step, store_of_missed hmissed]
          exact List.getElem?_set_ne hsame
      · left
        rw [BusyService.step, store_of_other fun pending heq => hmissed ⟨pending, heq⟩]
        exact h
  | install catalog => exact Or.inl h
  | clear => exact Or.inl h
  | advance now expired => exact Or.inl h
  | outage reason => exact Or.inl h

theorem ofLookUp_ne_reading (pending other : Pending) (found : Option Json) :
    SearchStage.ofLookUp pending found ≠ .reading other := by
  cases found with
  | none => exact SearchStage.noConfusion
  | some response => exact SearchStage.noConfusion

theorem over_after {busy : BusyService} {place : Nat} {stage : SearchStage}
    {outcome : Except SearchError Json} (h : busy.searches[place]? = some stage)
    (hover : stage.outcome? = some outcome) (run : List BusyStep) :
    (busy.after setup run).searches[place]? = some stage := by
  induction run with
  | nil => exact h
  | cons step earlier ih =>
      rcases stage_step setup ih step with hsame | ⟨pending, _, rfl, _⟩ | ⟨pending, _, rfl, _⟩
      · exact hsame
      · cases hover
      · cases hover

theorem lookedUp_after {busy : BusyService} {place : Nat} {stage : SearchStage}
    (h : busy.searches[place]? = some stage) (hstage : forall pending, stage ≠ .reading pending)
    (run : List BusyStep) :
    exists later, (busy.after setup run).searches[place]? = some later ∧
      forall pending, later ≠ .reading pending := by
  induction run with
  | nil => exact ⟨stage, h, hstage⟩
  | cons step earlier ih =>
      rcases ih with ⟨later, hlater, hread⟩
      rcases stage_step setup hlater step with
        hsame | ⟨pending, _, hreading, _⟩ | ⟨pending, _, _, hnext⟩
      · exact ⟨later, hsame, hread⟩
      · exact absurd hreading (hread pending)
      · exact ⟨_, hnext, fun _ => SearchStage.noConfusion⟩

/-- A search that has taken its steps is over, whatever came in between. -/
theorem over_of_steps {busy : BusyService} {place : Nat} (hplace : place < busy.searches.length)
    (later middle : List BusyStep) :
    exists stage outcome,
      (busy.after setup (later ++ .store place :: (middle ++ [.lookUp place]))).searches[place]? =
        some stage ∧ stage.outcome? = some outcome := by
  have hlookUp : exists stage, (busy.lookUp place).searches[place]? = some stage ∧
      forall pending, stage ≠ .reading pending := by
    by_cases hreading : exists pending, busy.searches[place]? = some (.reading pending)
    · rcases hreading with ⟨pending, hreading⟩
      exact ⟨_, stage_lookUp hreading, fun _ => ofLookUp_ne_reading _ _ _⟩
    · rw [lookUp_of_other fun pending heq => hreading ⟨pending, heq⟩]
      refine ⟨_, List.getElem?_eq_getElem hplace, fun pending heq => hreading ⟨pending, ?_⟩⟩
      rw [← heq]
      exact List.getElem?_eq_getElem hplace
  rcases hlookUp with ⟨_, hstage, hread⟩
  rcases lookedUp_after setup hstage hread middle with ⟨stage, hstage, hread⟩
  have hstore : exists final outcome,
      (((busy.lookUp place).after setup middle).store setup place).searches[place]? = some final ∧
        final.outcome? = some outcome := by
    cases stage with
    | reading pending => exact absurd rfl (hread pending)
    | missed pending => exact ⟨_, _, stage_store hstage, rfl⟩
    | refused error =>
        rw [store_of_other fun _ hmissed => by cases hstage.symm.trans hmissed]
        exact ⟨_, _, hstage, rfl⟩
    | answered pending outcome =>
        rw [store_of_other fun _ hmissed => by cases hstage.symm.trans hmissed]
        exact ⟨_, _, hstage, rfl⟩
  rcases hstore with ⟨final, outcome, hfinal, houtcome⟩
  refine ⟨final, outcome, ?_, houtcome⟩
  rw [after_append, after, after_append]
  exact over_after setup hfinal houtcome later

end BusyService

end CatalogSearch
