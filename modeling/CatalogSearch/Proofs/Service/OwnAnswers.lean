import CatalogSearch.Proofs.Service.SharedStore

/-!
# Own answers from a shared store

A run of two services over one store shows of each service its own answers, but for the times,
exactly if no search comes upon a response, of whichever service, that is still held under its
key and is not its own.  Services that search one catalog under each version are safe.
Services with one version and two catalogs are not, since the key names no catalog.
-/

namespace CatalogSearch

open Service

namespace ServicePair

variable {setup : ServiceSetup} {pair : ServicePair} {side : Side} {store : RemoteStore}
  {held : List Pending}

/-!
## Runs
-/

/-- Every step of a run shows what the snapshot of its own service says. -/
def ShowsOwn (setup : ServiceSetup) (start : ServicePair) (run : List (Side × ServiceStep)) :
    Prop :=
  forall side step earlier, (side, step) :: earlier <:+ run ->
    (start.after setup earlier).ShowsOwnAt setup side step

/-- No search of a run comes upon a held response that is not its own answer. -/
def Unmixed (setup : ServiceSetup) (start : ServicePair) (run : List (Side × ServiceStep)) : Prop :=
  forall side step earlier, (side, step) :: earlier <:+ run ->
    (start.after setup earlier).AgreesAt setup side (start.held setup earlier) step

theorem forall_suffix_cons {property : Side -> ServiceStep -> List (Side × ServiceStep) -> Prop}
    {side : Side} {step : ServiceStep} {earlier : List (Side × ServiceStep)} :
    (forall other taken before, (other, taken) :: before <:+ (side, step) :: earlier ->
        property other taken before) <->
      property side step earlier ∧
        forall other taken before, (other, taken) :: before <:+ earlier ->
          property other taken before := by
  constructor
  · intro h
    refine ⟨h _ _ _ (List.suffix_refl _), fun other taken before hsuffix => ?_⟩
    exact h _ _ _ (hsuffix.trans (List.suffix_cons _ _))
  · rintro ⟨hlast, hearlier⟩ other taken before hsuffix
    rcases List.suffix_cons_iff.mp hsuffix with heq | hsuffix
    · cases heq
      exact hlast
    · exact hearlier _ _ _ hsuffix

theorem holds_after {start : ServicePair} {run : List (Side × ServiceStep)}
    (hremote : start.backend = .remote store) (hfresh : start.backend.IsFresh)
    (hshown : ShowsOwn setup start run) :
    exists later, (start.after setup run).backend = .remote later ∧
      Holds setup (start.held setup run) later := by
  induction run with
  | nil =>
      rw [hremote] at hfresh
      exact ⟨store, hremote, Holds.of_isFresh hfresh⟩
  | cons taken earlier ih =>
      rcases forall_suffix_cons.mp hshown with ⟨hlast, hearlier⟩
      rcases ih hearlier with ⟨before, hbefore, hholds⟩
      exact step_holds hbefore hholds hlast

theorem showsOwnAt_iff_agreesAt {start : ServicePair} {earlier : List (Side × ServiceStep)}
    (hremote : start.backend = .remote store) (hfresh : start.backend.IsFresh)
    (hearlier : ShowsOwn setup start earlier) (step : ServiceStep) :
    (start.after setup earlier).ShowsOwnAt setup side step <->
      (start.after setup earlier).AgreesAt setup side (start.held setup earlier) step := by
  rcases holds_after hremote hfresh hearlier with ⟨before, hbefore, hholds⟩
  exact showsOwnAt_iff hbefore hholds step

theorem unmixed_of_showsOwn {start : ServicePair} {run : List (Side × ServiceStep)}
    (hremote : start.backend = .remote store) (hfresh : start.backend.IsFresh)
    (hshown : ShowsOwn setup start run) :
    Unmixed setup start run := by
  intro side step earlier hsuffix
  have hearlier : ShowsOwn setup start earlier := fun other taken before hbefore =>
    hshown other taken before (hbefore.trans ((List.suffix_cons _ _).trans hsuffix))
  exact (showsOwnAt_iff_agreesAt hremote hfresh hearlier step).mp (hshown side step earlier hsuffix)

theorem showsOwn_of_unmixed {start : ServicePair} {run : List (Side × ServiceStep)}
    (hremote : start.backend = .remote store) (hfresh : start.backend.IsFresh)
    (hunmixed : Unmixed setup start run) :
    ShowsOwn setup start run := by
  induction run with
  | nil =>
      intro side step earlier hsuffix
      cases List.eq_nil_of_suffix_nil hsuffix
  | cons taken earlier ih =>
      rcases forall_suffix_cons.mp hunmixed with ⟨hlast, hbefore⟩
      have hearlier := ih hbefore
      exact forall_suffix_cons.mpr
        ⟨(showsOwnAt_iff_agreesAt hremote hfresh hearlier _).mpr hlast, hearlier⟩

/-!
## Services that share their versions
-/

def searches (setup : ServiceSetup) (start : ServicePair) :
    List (Side × ServiceStep) -> List Pending
  | [] => []
  | (side, step) :: earlier =>
      started setup ((start.after setup earlier).snapshot side) step ++ searches setup start earlier

theorem subset_of_cleared (cleared : Bool) :
    (if cleared then [] else held) ⊆ held := by
  cases cleared with
  | true => exact List.nil_subset _
  | false => exact List.Subset.refl _

theorem heldAfter_subset (step : ServiceStep) :
    pair.heldAfter setup side held step ⊆ started setup (pair.snapshot side) step ++ held := by
  cases step with
  | search request elapsed =>
      simp only [heldAfter]
      split
      · exact List.Subset.refl _
      · exact List.subset_append_right _ _
  | replace catalog => exact subset_of_cleared _
  | reload fetched files path url =>
      simp only [heldAfter]
      cases (Catalog.loadFetched fetched files path url).1.value with
      | ok catalog => exact subset_of_cleared _
      | error error => exact List.subset_append_right _ _
  | advance now expired =>
      intro pending hmem
      exact List.mem_append_right _ (List.mem_filter.mp hmem).1
  | outage reason => exact List.subset_append_right _ _

theorem held_subset_searches (start : ServicePair) (run : List (Side × ServiceStep)) :
    start.held setup run ⊆ start.searches setup run := by
  induction run with
  | nil => exact List.Subset.refl _
  | cons taken earlier ih =>
      intro pending hmem
      rcases List.mem_append.mp (heldAfter_subset taken.2 hmem) with hlast | hbefore
      · exact List.mem_append_left _ hlast
      · exact List.mem_append_right _ (ih hbefore)

theorem wellStarted_of_mem_started {snapshot : Snapshot} {step : ServiceStep} {pending : Pending}
    (hpage : forall request elapsed, step = .search request elapsed ->
      request.page.isString = false)
    (hmem : pending ∈ started setup snapshot step) :
    WellStarted pending := by
  rcases mem_started hmem with ⟨request, elapsed, rfl, hstart⟩
  exact (wellStarted_of_start (hpage request elapsed rfl) hstart).1

theorem wellStarted_of_mem_searches {start : ServicePair} {run : List (Side × ServiceStep)}
    (hpages : forall side request elapsed, (side, ServiceStep.search request elapsed) ∈ run ->
      request.page.isString = false)
    {pending : Pending} (hmem : pending ∈ start.searches setup run) :
    WellStarted pending := by
  induction run with
  | nil => cases hmem
  | cons taken earlier ih =>
      rcases taken with ⟨side, step⟩
      rcases List.mem_append.mp hmem with hlast | hbefore
      · exact wellStarted_of_mem_started
          (fun request elapsed heq => hpages side request elapsed (heq ▸ List.mem_cons_self)) hlast
      · exact ih (fun side request elapsed hmem =>
          hpages side request elapsed (List.mem_cons_of_mem _ hmem)) hbefore

/-- Services that search one catalog under each version do not mix their responses. -/
theorem unmixed_of_versionsIdentify {start : ServicePair} {run : List (Side × ServiceStep)}
    (hpages : forall side request elapsed, (side, ServiceStep.search request elapsed) ∈ run ->
      request.page.isString = false)
    (hseparates : DigestSeparates (start.searches setup run))
    (hversions : VersionsIdentify ((start.searches setup run).map Pending.snapshot)) :
    Unmixed setup start run := by
  induction run with
  | nil =>
      intro side step earlier hsuffix
      cases List.eq_nil_of_suffix_nil hsuffix
  | cons taken earlier ih =>
      rcases taken with ⟨side, step⟩
      have hearlier :
          start.searches setup earlier ⊆ start.searches setup ((side, step) :: earlier) :=
        List.subset_append_right _ _
      refine forall_suffix_cons.mpr ⟨?_, ?_⟩
      · intro _ pending hpending other hheld hkey response hanswer _
        have hmem : pending ∈ start.searches setup ((side, step) :: earlier) :=
          List.mem_append_left _ hpending
        have hother := hearlier (held_subset_searches start earlier hheld)
        have hsame : SameSearch other pending :=
          sameSearch_of_key_eq hseparates hother hmem (wellStarted_of_mem_searches hpages hother)
            (wellStarted_of_mem_searches hpages hmem) hanswer hkey
        have hsnapshot : other.snapshot = pending.snapshot :=
          hversions _ _ (List.mem_map_of_mem hother) (List.mem_map_of_mem hmem) hsame.version
        rw [← withoutTime_answer_congr setup hsame hsnapshot, hanswer]
        rfl
      · apply ih
        · exact fun side request elapsed hmem =>
            hpages side request elapsed (List.mem_cons_of_mem _ hmem)
        · exact hseparates.subset hearlier
        · intro first second hfirst hsecond
          exact hversions _ _ (List.map_subset _ hearlier hfirst)
            (List.map_subset _ hearlier hsecond)

/-!
## The guarantee
-/

/-- Two services over one store that was empty show their own answers exactly if no search comes
upon a held response that is not its own. -/
theorem showsOwn_iff_unmixed (setup : ServiceSetup) (start : ServicePair) (store : RemoteStore)
    (run : List (Side × ServiceStep)) (hremote : start.backend = .remote store)
    (hfresh : start.backend.IsFresh) :
    ShowsOwn setup start run <-> Unmixed setup start run := by
  constructor
  · exact unmixed_of_showsOwn hremote hfresh
  · exact showsOwn_of_unmixed hremote hfresh

def overEmptyStore (left right : Snapshot) : ServicePair :=
  ⟨left, right, .remote {}, .zero⟩

def lampFirst : List (Side × ServiceStep) :=
  [(.left, searchLamp .zero)]

def lampOnBothSides : List (Side × ServiceStep) :=
  (.right, searchLamp .zero) :: lampFirst

/-- Over one catalog the two searches give one answer. -/
theorem showsOwn_iff_unmixed_oneCatalog :
    (overEmptyStore (lampSnapshot 0) (lampSnapshot 0)).backend = .remote {} ∧
      (overEmptyStore (lampSnapshot 0) (lampSnapshot 0)).backend.IsFresh ∧
      ShowsOwn {} (overEmptyStore (lampSnapshot 0) (lampSnapshot 0)) lampOnBothSides := by
  have hfresh : (overEmptyStore (lampSnapshot 0) (lampSnapshot 0)).backend.IsFresh := by
    intro entry hmem
    cases hmem
  have hsearches : (overEmptyStore (lampSnapshot 0) (lampSnapshot 0)).searches {} lampOnBothSides =
      [lampSearch 0, lampSearch 0] := by
    simp only [lampOnBothSides, lampFirst, searches, snapshot_after]
    rfl
  refine ⟨rfl, hfresh, (showsOwn_iff_unmixed {} _ {} lampOnBothSides rfl hfresh).mpr ?_⟩
  apply unmixed_of_versionsIdentify
  · intro side request elapsed hmem
    simp only [lampOnBothSides, lampFirst, searchLamp, List.mem_cons, Prod.mk.injEq,
      ServiceStep.search.injEq, List.not_mem_nil, or_false] at hmem
    rcases hmem with ⟨_, rfl, _⟩ | ⟨_, rfl, _⟩
    · rfl
    · rfl
  · rw [hsearches]
    intro first second hfirst hsecond _
    simp only [List.mem_cons, List.not_mem_nil, or_false, or_self] at hfirst hsecond
    rw [hfirst, hsecond]
  · rw [hsearches]
    intro first second hfirst hsecond _
    simp only [List.map_cons, List.map_nil, List.mem_cons, List.not_mem_nil, or_false, or_self]
      at hfirst hsecond
    rw [hfirst, hsecond]

def lampSearchInNone : Pending :=
  { lampSearch 0 with snapshot := ⟨[], 0⟩ }

/-- The counts of results in the two answers differ. -/
theorem lampSearch_answer_ne :
    ((lampSearch 0).answer {}).value.map Json.withoutTime ≠
      (lampSearchInNone.answer {}).value.map Json.withoutTime := by
  intro heq
  have htotals := congrArg (fun answer => (answer.toOption.bind fun response =>
    (response.member? "totalResults").map Json.write)) heq
  exact absurd htotals (by decide +kernel)

theorem exists_lampSearch_answer :
    exists response, ((lampSearch 0).answer {}).value = .ok response ∧
      response.longInteger? = none := by
  have hshort :
      ((lampSearch 0).answer {}).value.toOption.map Document.longInteger? = some none := by
    decide +kernel
  cases hanswer : ((lampSearch 0).answer {}).value with
  | error error =>
      rw [hanswer] at hshort
      cases hshort
  | ok response =>
      rw [hanswer] at hshort
      exact ⟨response, rfl, Option.some.inj hshort⟩

def lampOnTheLeft : ServicePair :=
  overEmptyStore (lampSnapshot 0) ⟨[], 0⟩

/-- The services count from one version, so that the right one finds what the left one has found in
its catalog. -/
theorem not_showsOwn_lampOnTheLeft :
    ¬ ShowsOwn {} lampOnTheLeft lampOnBothSides := by
  intro hshown
  have hfresh : lampOnTheLeft.backend.IsFresh := by
    intro entry hmem
    cases hmem
  have hleft : (start {} (lampOnTheLeft.snapshot .left) { query := "lamp" } .zero).value =
      .ok (lampSearch 0) := rfl
  have hright : (start {} ((lampOnTheLeft.after {} lampFirst).snapshot .right)
      { query := "lamp" } .zero).value = .ok lampSearchInNone := by
    rw [snapshot_after]
    rfl
  rcases exists_lampSearch_answer with ⟨response, hanswer, hshort⟩
  have hbackend : (lampOnTheLeft.after {} lampFirst).backend =
      .remote (RemoteStore.put {} (lampSearch 0).key ⟨response.toText.toUTF8, some 300⟩) := by
    rw [lampFirst, after, after, searchLamp, backend_search hleft]
    exact (congrArg Prod.snd (lookUp_missed _ rfl)).trans (storeAnswer_backend_of_ok _ hanswer rfl)
  have hreach : (lampOnTheLeft.after {} lampFirst).backend.inReach = true := by
    rw [hbackend]
    rfl
  have hheld : lampSearch 0 ∈ lampOnTheLeft.held {} lampFirst := by
    rw [lampFirst, ServicePair.held, after, searchLamp, heldAfter, started_of_ok hleft]
    exact List.mem_cons_self
  have hstarted : lampSearchInNone ∈
      started {} ((lampOnTheLeft.after {} lampFirst).snapshot .right) (searchLamp .zero) := by
    rw [searchLamp, started_of_ok hright]
    exact List.mem_cons_self
  -- The keys of the two searches are made of the same parts.
  have hsame : (lampSearchInNone.answer {}).value.map Json.withoutTime =
      .ok response.withoutTime :=
    unmixed_of_showsOwn rfl hfresh hshown .right _ lampFirst (List.suffix_refl _) hreach
      lampSearchInNone hstarted (lampSearch 0) hheld rfl response hanswer hshort
  apply lampSearch_answer_ne
  rw [hsame, hanswer]
  rfl

end ServicePair

end CatalogSearch
