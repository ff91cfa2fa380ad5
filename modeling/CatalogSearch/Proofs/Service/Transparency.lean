import CatalogSearch.Proofs.Cache.Kept
import CatalogSearch.Proofs.Service.Answer
import CatalogSearch.Proofs.Service.ResponseNames
import CatalogSearch.Proofs.Service.Run

/-!
# What a cache shows

Each kept response was given to a search of the past under whose key it is kept, and no two
snapshots of the past share a version.  A search that finds a response therefore finds its own
answer but for the time, whatever was evicted, expired or could not be written or removed.
-/

namespace CatalogSearch

namespace Backend

def IsFresh : Backend -> Prop
  | none => True
  | memory cache => cache.entries = []
  | remote store => forall entry : String × StoredBytes, entry ∈ store.entries ->
      ¬ Cache.IsOwn entry.1

theorem IsFresh.keepsOnly
    {backend : Backend} (property : String -> Json -> Prop) (h : backend.IsFresh) :
    backend.KeepsOnly property := by
  cases backend with
  | none => exact True.intro
  | memory cache =>
      intro entry hmem
      rw [h] at hmem
      cases hmem
  | remote store =>
      intro entry hmem hown
      exact absurd hown (h entry hmem)

theorem KeepsOnly.expire
    {property : String -> Json -> Prop} {backend : Backend} (expired : List String)
    (hkeeps : backend.KeepsOnly property) :
    (backend.expire expired).KeepsOnly property := by
  cases backend with
  | none => exact hkeeps
  | memory cache => exact hkeeps
  | remote store =>
      intro entry hmem hown
      exact hkeeps entry (List.mem_filter.mp hmem).1 hown

theorem KeepsOnly.setOutage
    {property : String -> Json -> Prop} {backend : Backend} (reason : Option String)
    (hkeeps : backend.KeepsOnly property) :
    (backend.setOutage reason).KeepsOnly property := by
  cases backend with
  | none => exact hkeeps
  | memory cache => exact hkeeps
  | remote store => exact hkeeps

end Backend

namespace ServiceOutcome

/-- A step shows its own outcome, or an earlier one that differs from it in the time only. -/
def Repeats (earlier : List ServiceOutcome) (shown own : ServiceOutcome) : Prop :=
  shown = own ∨ (shown ∈ earlier ∧ shown.withoutTime = own.withoutTime)

variable {earlier : List ServiceOutcome} {shown own : ServiceOutcome}

theorem Repeats.withoutTime_eq (h : Repeats earlier shown own) :
    shown.withoutTime = own.withoutTime := by
  rcases h with rfl | ⟨_, h⟩
  · rfl
  · exact h

theorem Repeats.mono
    {all : List ServiceOutcome} (hsubset : earlier ⊆ all) (h : Repeats earlier shown own) :
    Repeats all shown own := by
  rcases h with h | ⟨hmem, h⟩
  · exact Or.inl h
  · exact Or.inr ⟨hsubset hmem, h⟩

/-- Only responses tell a time. -/
theorem eq_of_withoutTime_eq
    (hown : forall response, own ≠ .answered (.ok response))
    (h : shown.withoutTime = own.withoutTime) :
    shown = own := by
  cases own with
  | answered outcome =>
      cases outcome with
      | ok response => exact absurd rfl (hown response)
      | error error =>
          cases shown with
          | answered outcome =>
              cases outcome with
              | ok response => cases h
              | error other => exact h
          | replaced => cases h
          | reloaded count => cases h
          | silent => cases h
  | replaced => cases shown <;> first | rfl | cases h
  | reloaded count => cases shown <;> first | exact h | cases h
  | silent => cases shown <;> first | rfl | cases h

theorem refusedFor_ne_ok (error : StoreError) (outcome : ServiceOutcome) (response : Json) :
    outcome.refusedFor error ≠ .answered (.ok response) := by
  intro h
  cases outcome with
  | answered outcome => cases outcome <;> cases h
  | replaced => cases h
  | reloaded count => cases h
  | silent => cases h

end ServiceOutcome

namespace Service

open ServiceOutcome

/-!
## Searches of the past
-/

def AnswersPast (setup : ServiceSetup) (refusal? : Option StoreError) (past : List Pending)
    (key : String) (response : Json) : Prop :=
  exists pending : Pending, pending ∈ past ∧ pending.key = key ∧
    pending.outcome setup refusal? = .ok response

structure WellStarted (pending : Pending) : Prop where
  key : pending.key = Cache.key pending.parts
  size : pending.size.isNumber = true
  page : pending.request.page.isString = false

/-- The digest tells the key texts of some searches apart. -/
def DigestSeparates (pendings : List Pending) : Prop :=
  forall first second : Pending, first ∈ pendings -> second ∈ pendings ->
    Cache.digestText first.keyText = Cache.digestText second.keyText ->
      first.keyText = second.keyText

/-- A version stands for one snapshot among some. -/
def VersionsIdentify (snapshots : List Snapshot) : Prop :=
  forall first second : Snapshot, first ∈ snapshots -> second ∈ snapshots ->
    first.version = second.version -> first = second

theorem DigestSeparates.subset
    {some all : List Pending} (h : DigestSeparates all) (hsubset : some ⊆ all) :
    DigestSeparates some := by
  intro first second hfirst hsecond
  exact h first second (hsubset hfirst) (hsubset hsecond)

theorem digestText_eq_of_key_eq
    {first second : List Json} (h : Cache.key first = Cache.key second) :
    Cache.digestText (Cache.keyText first) = Cache.digestText (Cache.keyText second) := by
  have hlist := congrArg String.toList h
  unfold Cache.key at hlist
  rw [String.toList_append, String.toList_append, String.toList_ofList, String.toList_ofList]
    at hlist
  exact List.append_cancel_left hlist

theorem sameSearch_of_key_eq
    {setup : ServiceSetup} {pendings : List Pending} {first second : Pending} {response : Json}
    (hseparates : DigestSeparates pendings) (hfirst : first ∈ pendings)
    (hsecond : second ∈ pendings) (hstarted : WellStarted first)
    (hotherStarted : WellStarted second) (hanswer : (first.answer setup).value = .ok response)
    (hkey : first.key = second.key) :
    SameSearch first second := by
  rw [hstarted.key, hotherStarted.key] at hkey
  have htext := hseparates first second hfirst hsecond (digestText_eq_of_key_eq hkey)
  exact sameSearch_of_keyText_eq (page_isNumber_of_answer hanswer hstarted.page)
    hotherStarted.page hstarted.size hotherStarted.size htext

theorem withoutTime_outcome_congr
    {setup : ServiceSetup} {first second : Pending} (refusal? : Option StoreError)
    (h : SameSearch first second) (hsnapshot : first.snapshot = second.snapshot) :
    (first.outcome setup refusal?).map Json.withoutTime =
      (second.outcome setup refusal?).map Json.withoutTime := by
  unfold Pending.outcome
  rw [map_given, map_given, withoutTime_answer_congr setup h hsnapshot]

section AnswersPast

variable {setup : ServiceSetup} {refusal? : Option StoreError} {past : List Pending} {key : String}

theorem AnswersPast.object
    (response : Json) (h : AnswersPast setup refusal? past key response) :
    exists members, response = .object members ∧ Document.NamesDistinct (.object members) := by
  rcases h with ⟨pending, _, _, houtcome⟩
  rcases answer_eq_ok (outcome_eq_ok_iff.mp houtcome).2 with ⟨results, page, size, _, _, hresponse⟩
  rw [hresponse]
  exact results.namesDistinct_response pending.request.query (results.page page size)
    pending.elapsed

theorem AnswersPast.mono
    {later : List Pending} {response : Json} (hsubset : past ⊆ later)
    (h : AnswersPast setup refusal? past key response) :
    AnswersPast setup refusal? later key response := by
  rcases h with ⟨pending, hmem, hkey, houtcome⟩
  exact ⟨pending, hsubset hmem, hkey, houtcome⟩

/-- A response that is found was given to a search of the past that asked for the same. -/
theorem AnswersPast.sameSearch
    {pendings : List Pending} {pending : Pending} {response : Json}
    (hkept : AnswersPast setup refusal? past pending.key response)
    (hpast : past ⊆ pendings) (hpending : pending ∈ pendings)
    (hseparates : DigestSeparates pendings)
    (hstarted : forall other, other ∈ pendings -> WellStarted other) :
    exists other, other ∈ past ∧ SameSearch other pending ∧
      other.outcome setup refusal? = .ok response := by
  rcases hkept with ⟨other, hmem, hkey, houtcome⟩
  exact ⟨other, hmem,
    sameSearch_of_key_eq hseparates (hpast hmem) hpending (hstarted other (hpast hmem))
      (hstarted pending hpending) (outcome_eq_ok_iff.mp houtcome).2 hkey, houtcome⟩

end AnswersPast

/-!
## The invariant
-/

/-- The searches of the past and the kept responses fit a session. -/
structure Sound (setup : ServiceSetup) (refusal? : Option StoreError) (past : List Pending)
    (session : TimedService) : Prop where
  started : forall pending : Pending, pending ∈ past -> WellStarted pending
  version_le : forall pending : Pending, pending ∈ past ->
    pending.snapshot.version ≤ session.service.snapshot.version
  snapshot_eq : forall pending : Pending, pending ∈ past ->
    pending.snapshot.version = session.service.snapshot.version ->
      pending.snapshot = session.service.snapshot
  kept : session.service.backend.KeepsOnly (AnswersPast setup refusal? past)
  refusal_eq : session.service.backend.refusal? setup.cacheTtl = refusal?

variable {setup : ServiceSetup} {refusal? : Option StoreError} {past : List Pending}
  {session : TimedService} {pending : Pending}

def pastOutcomes (setup : ServiceSetup) (refusal? : Option StoreError) (past : List Pending) :
    List ServiceOutcome :=
  past.map fun pending => .answered (pending.outcome setup refusal?)

def ofVersion (version : Nat) (past : List Pending) : List Pending :=
  past.filter (·.snapshot.version == version)

theorem Sound.repeats_of_kept
    {response : Json} (hsound : Sound setup refusal? past session)
    (hseparates : DigestSeparates (pending :: past)) (hstarted : WellStarted pending)
    (hsnapshot : pending.snapshot = session.service.snapshot)
    (hkept : AnswersPast setup refusal? past pending.key response) :
    Repeats (pastOutcomes setup refusal? (ofVersion session.service.snapshot.version past))
      (.answered (.ok response)) (.answered (pending.outcome setup refusal?)) := by
  rcases hkept.sameSearch (List.subset_cons_self pending past) List.mem_cons_self hseparates
    (List.forall_mem_cons.mpr ⟨hstarted, hsound.started⟩) with ⟨other, hmem, hsame, houtcome⟩
  have hversion : other.snapshot.version = session.service.snapshot.version := by
    rw [hsame.version, hsnapshot]
  have hshared : other.snapshot = pending.snapshot := by
    rw [hsound.snapshot_eq other hmem hversion, hsnapshot]
  right
  rw [← houtcome]
  constructor
  · exact List.mem_map_of_mem (List.mem_filter.mpr ⟨hmem, beq_iff_eq.mpr hversion⟩)
  · exact congrArg ServiceOutcome.answered (withoutTime_outcome_congr refusal? hsame hshared)

/-!
## One search
-/

/-- A search is answered from its own snapshot, and what is kept after it was given to searches of
the past or to this one. -/
theorem lookUp_sound
    (hsound : Sound setup refusal? past session)
    (hseparates : DigestSeparates (pending :: past)) (hstarted : WellStarted pending)
    (hsnapshot : pending.snapshot = session.service.snapshot) :
    Repeats (pastOutcomes setup refusal? (ofVersion session.service.snapshot.version past))
        (.answered ((lookUp setup session.now pending session.service.backend).value.1.map
          Answered.response))
        (.answered (pending.outcome setup refusal?)) ∧
      (lookUp setup session.now pending session.service.backend).value.2.KeepsOnly
        (AnswersPast setup refusal? (pending :: past)) := by
  have hown : Cache.IsOwn pending.key := by
    rw [hstarted.key]
    exact Cache.isOwn_key _
  have hget := (hsound.kept.get session.now pending.key).mono
    (fun _ _ => AnswersPast.mono (List.subset_cons_self pending past))
  have hrefusal := Backend.refusal?_get setup.cacheTtl session.service.backend session.now
    pending.key
  rw [hsound.refusal_eq] at hrefusal
  simp only [lookUp]
  cases hfound : (session.service.backend.get session.now pending.key).value with
  | mk found backend =>
      rw [hfound] at hget hrefusal
      cases found with
      | some response =>
          have hresponse : (session.service.backend.get session.now pending.key).value.1 =
              some response := by rw [hfound]
          have hkept := hsound.kept.found hown AnswersPast.object hresponse
          exact ⟨hsound.repeats_of_kept hseparates hstarted hsnapshot hkept, hget⟩
      | none =>
          constructor
          · left
            rw [← hrefusal]
            exact congrArg _ (storeAnswer_outcome setup session.now pending backend)
          · apply storeAnswer_keepsOnly session.now hget
            intro response houtcome
            rw [hrefusal] at houtcome
            exact ⟨pending, List.mem_cons_self, rfl, houtcome⟩

theorem wellStarted_of_start
    {snapshot : Snapshot} {request : SearchRequest} {elapsed : Binary64}
    (hpage : request.page.isString = false)
    (h : (start setup snapshot request elapsed).value = .ok pending) :
    WellStarted pending ∧ pending.snapshot = snapshot := by
  rcases start_eq_ok h with ⟨hsnapshot, hrequest, hkey, hsize⟩
  refine ⟨⟨hkey, hsize, ?_⟩, hsnapshot⟩
  rw [hrequest]
  exact hpage

/-- The invariant for a backend that keeps what it kept, over a snapshot that a step has led to. -/
theorem Sound.after
    {step : ServiceStep} (hsound : Sound setup refusal? past session)
    (hkept : (session.step setup step).2.service.backend.KeepsOnly
      (AnswersPast setup refusal? past)) :
    Sound setup refusal? past (session.step setup step).2 := by
  have hle := session.service.snapshot.version_le_after step
  have hsnapshot := session.step_snapshot setup step
  constructor
  · exact hsound.started
  · intro pending hmem
    rw [hsnapshot]
    exact Nat.le_trans (hsound.version_le pending hmem) hle
  · intro pending hmem hversion
    rw [hsnapshot] at hversion ⊢
    have hsame : (session.service.snapshot.after step).version =
        session.service.snapshot.version := by
      have hpast := hsound.version_le pending hmem
      omega
    rw [Snapshot.after_eq_of_version_eq hsame]
    exact hsound.snapshot_eq pending hmem (hversion.trans hsame)
  · exact hkept
  · rw [session.refusal?_step]
    exact hsound.refusal_eq

theorem search_sound
    (request : SearchRequest) (elapsed : Binary64) (hsound : Sound setup refusal? past session)
    (hpage : request.page.isString = false)
    (hseparates : DigestSeparates
      (started setup session.service.snapshot (.search request elapsed) ++ past)) :
    Repeats (pastOutcomes setup refusal? (ofVersion session.service.snapshot.version past))
        (session.step setup (.search request elapsed)).1
        (session.service.snapshot.outcome setup refusal? (.search request elapsed)) ∧
      Sound setup refusal?
        (started setup session.service.snapshot (.search request elapsed) ++ past)
        (session.step setup (.search request elapsed)).2 := by
  have hsnapshot := session.step_snapshot setup (.search request elapsed)
  have hrefusal := session.refusal?_step setup (.search request elapsed)
  cases hstart : (start setup session.service.snapshot request elapsed).value with
  | error error =>
      rw [outcome_of_error hstart, started_of_error hstart]
      simp only [TimedService.step, Service.search, hstart]
      exact ⟨Or.inl rfl, hsound⟩
  | ok pending =>
      rw [outcome_of_ok hstart, started_of_ok hstart]
      rw [started_of_ok hstart] at hseparates
      rcases wellStarted_of_start hpage hstart with ⟨hstarted, hown⟩
      have hlookUp := lookUp_sound hsound hseparates hstarted hown
      simp only [TimedService.step, Service.search, hstart] at hsnapshot hrefusal ⊢
      refine ⟨hlookUp.1, ?_⟩
      constructor
      · exact List.forall_mem_cons.mpr ⟨hstarted, hsound.started⟩
      · intro other hmem
        rcases List.mem_cons.mp hmem with rfl | hrest
        · exact Nat.le_of_eq (congrArg Snapshot.version hown)
        · exact hsound.version_le other hrest
      · intro other hmem hversion
        rcases List.mem_cons.mp hmem with rfl | hrest
        · exact hown
        · exact hsound.snapshot_eq other hrest hversion
      · exact hlookUp.2
      · exact hrefusal.trans hsound.refusal_eq

/-!
## One step
-/

/-- A step of a sound session shows what its snapshot says, and leaves a sound session. -/
theorem step_sound
    (step : ServiceStep) (hsound : Sound setup refusal? past session)
    (hpage : forall request elapsed, step = .search request elapsed ->
      request.page.isString = false)
    (hseparates : DigestSeparates (started setup session.service.snapshot step ++ past)) :
    Repeats (pastOutcomes setup refusal? (ofVersion session.service.snapshot.version past))
        (session.step setup step).1 (session.service.snapshot.outcome setup refusal? step) ∧
      Sound setup refusal? (started setup session.service.snapshot step ++ past)
        (session.step setup step).2 := by
  cases step with
  | search request elapsed =>
      exact search_sound request elapsed hsound (hpage request elapsed rfl) hseparates
  | replace catalog => exact ⟨Or.inl rfl, hsound.after hsound.kept.clear⟩
  | reload fetched files path url =>
      constructor
      · left
        simp only [TimedService.step, Service.reload, Snapshot.outcome]
        cases (Catalog.loadFetched fetched files path url).1.value with
        | ok catalog => rfl
        | error error => rfl
      · apply hsound.after
        simp only [TimedService.step, Service.reload]
        cases (Catalog.loadFetched fetched files path url).1.value with
        | ok catalog => exact hsound.kept.clear
        | error error => exact hsound.kept
  | advance now expired => exact ⟨Or.inl rfl, hsound.after (hsound.kept.expire expired)⟩
  | outage reason => exact ⟨Or.inl rfl, hsound.after (hsound.kept.setOutage reason)⟩

/-!
## A whole run
-/

theorem sound_of_isFresh (h : session.service.backend.IsFresh) :
    Sound setup (session.service.backend.refusal? setup.cacheTtl) [] session := by
  constructor
  · intro pending hmem
    cases hmem
  · intro pending hmem
    cases hmem
  · intro pending hmem
    cases hmem
  · exact h.keepsOnly _
  · rfl

/-- The invariant after the steps of a run, with no searches but those of the run. -/
theorem sound_afterSteps
    {steps : List ServiceStep} (hsound : Sound setup refusal? past session)
    (hpages : forall request elapsed, ServiceStep.search request elapsed ∈ steps ->
      request.page.isString = false)
    (hseparates : DigestSeparates (session.service.snapshot.searches setup steps ++ past)) :
    exists later : List Pending,
      later ⊆ session.service.snapshot.searches setup steps ++ past ∧
        Sound setup refusal? later (session.afterSteps setup steps) := by
  induction steps generalizing past session with
  | nil => exact ⟨past, fun _ hmem => hmem, hsound⟩
  | cons first rest ih =>
      rw [Snapshot.searches] at hseparates ⊢
      have hfirst : started setup session.service.snapshot first ++ past ⊆
          started setup session.service.snapshot first ++
            (session.service.snapshot.after first).searches setup rest ++ past := by
        intro pending hmem
        simp only [List.mem_append] at hmem ⊢
        tauto
      have hstep := step_sound first hsound
        (fun request elapsed heq => hpages request elapsed (heq ▸ List.mem_cons_self))
        (hseparates.subset hfirst)
      have hrest : (session.step setup first).2.service.snapshot.searches setup rest ++
          (started setup session.service.snapshot first ++ past) ⊆
            started setup session.service.snapshot first ++
              (session.service.snapshot.after first).searches setup rest ++ past := by
        rw [session.step_snapshot setup first]
        intro pending hmem
        simp only [List.mem_append] at hmem ⊢
        tauto
      rcases ih hstep.2
        (fun request elapsed hmem => hpages request elapsed (List.mem_cons_of_mem _ hmem))
        (hseparates.subset hrest) with ⟨later, hlater, hsoundLater⟩
      exact ⟨later, fun _ hmem => hrest (hlater hmem), hsoundLater⟩

/-- Where no search of the past shares the version in effect, a step after others shows what the
snapshot of that moment says, or repeats what the snapshots of those other steps said. -/
theorem Sound.repeats_afterSteps
    {later : List ServiceStep} {step : ServiceStep} (hsound : Sound setup refusal? past session)
    (hold : forall pending : Pending, pending ∈ past ->
      pending.snapshot.version < session.service.snapshot.version)
    (hpages : forall request elapsed, ServiceStep.search request elapsed ∈ later ++ [step] ->
      request.page.isString = false)
    (hseparates : DigestSeparates
      (session.service.snapshot.searches setup (later ++ [step]) ++ past)) :
    Repeats (session.service.snapshot.outcomes setup refusal? later)
      ((session.afterSteps setup later).step setup step).1
      ((session.service.snapshot.afterSteps later).outcome setup refusal? step) := by
  rw [Snapshot.searches_append, List.append_assoc] at hseparates
  have hlater : DigestSeparates (session.service.snapshot.searches setup later ++ past) := by
    apply hseparates.subset
    intro pending hmem
    simp only [List.mem_append] at hmem ⊢
    tauto
  rcases sound_afterSteps hsound
    (fun request elapsed hmem => hpages request elapsed (List.mem_append_left _ hmem)) hlater with
      ⟨known, hknown, hsoundLater⟩
  have hsnapshot := session.afterSteps_snapshot setup later
  have hlast : DigestSeparates
      (Service.started setup (session.afterSteps setup later).service.snapshot step ++ known) := by
    rw [hsnapshot]
    refine hseparates.subset fun pending hmem => ?_
    rcases List.mem_append.mp hmem with hstarted | hbefore
    · exact List.mem_append_right _ (List.mem_append_left _ (List.mem_append_left _ hstarted))
    · rcases List.mem_append.mp (hknown hbefore) with hmore | hpast
      · exact List.mem_append_left _ hmore
      · exact List.mem_append_right _ (List.mem_append_right _ hpast)
  have hstep := step_sound step hsoundLater
    (fun request elapsed heq => hpages request elapsed
      (heq ▸ List.mem_append_right _ List.mem_cons_self)) hlast
  rw [hsnapshot] at hstep
  refine hstep.1.mono fun outcome hmem => ?_
  rcases List.mem_map.mp hmem with ⟨pending, hpending, rfl⟩
  rcases List.mem_filter.mp hpending with ⟨hmemKnown, hversion⟩
  rcases List.mem_append.mp (hknown hmemKnown) with hmore | hpast
  · exact outcome_mem_outcomes hmore
  · have hlt := hold pending hpast
    have hle := session.service.snapshot.version_le_afterSteps later
    have heq := beq_iff_eq.mp hversion
    omega

theorem repeats_afterSteps
    (session : TimedService) {earlier : List ServiceStep} {step : ServiceStep}
    (hfresh : session.service.backend.IsFresh)
    (hrefusal : session.service.backend.refusal? setup.cacheTtl = refusal?)
    (hpages : forall request elapsed, ServiceStep.search request elapsed ∈ earlier ++ [step] ->
      request.page.isString = false)
    (hseparates : DigestSeparates (session.service.snapshot.searches setup (earlier ++ [step]))) :
    Repeats (session.service.snapshot.outcomes setup refusal? earlier)
      ((session.afterSteps setup earlier).step setup step).1
      ((session.service.snapshot.afterSteps earlier).outcome setup refusal? step) := by
  subst hrefusal
  refine (sound_of_isFresh hfresh).repeats_afterSteps ?_ hpages ?_
  · intro pending hmem
    cases hmem
  · rw [List.append_nil]
    exact hseparates

/-!
## Without a cache
-/

theorem step_uncached
    (setup : ServiceSetup) (h : session.service.backend = .none) (step : ServiceStep) :
    (session.step setup step).1 = session.service.snapshot.outcome setup none step ∧
      (session.step setup step).2.service.backend = .none := by
  cases step with
  | search request elapsed =>
      cases hstart : (start setup session.service.snapshot request elapsed).value with
      | error error =>
          rw [outcome_of_error hstart]
          simp only [TimedService.step, Service.search, hstart]
          exact ⟨rfl, h⟩
      | ok pending =>
          have houtcome := storeAnswer_outcome setup session.now pending .none
          rw [outcome_of_ok hstart]
          simp only [TimedService.step, Service.search, hstart, lookUp, h, Backend.get]
          refine ⟨congrArg _ houtcome, ?_⟩
          simp only [storeAnswer]
          cases (pending.answer setup).value with
          | error error => rfl
          | ok response => rfl
  | replace catalog =>
      simp only [TimedService.step, Service.replaceCatalog, Reported.map_value, h]
      exact ⟨rfl, rfl⟩
  | reload fetched files path url =>
      simp only [TimedService.step, Service.reload, Snapshot.outcome]
      cases (Catalog.loadFetched fetched files path url).1.value with
      | ok catalog =>
          simp only [Service.replaceCatalog, Reported.map_value, h]
          exact ⟨rfl, rfl⟩
      | error error => exact ⟨rfl, h⟩
  | advance now expired =>
      simp only [TimedService.step, h]
      exact ⟨rfl, rfl⟩
  | outage reason =>
      simp only [TimedService.step, h]
      exact ⟨rfl, rfl⟩

theorem outcomes_uncached
    (setup : ServiceSetup) (session : TimedService) (h : session.service.backend = .none)
    (steps : List ServiceStep) :
    session.outcomes setup steps = session.service.snapshot.outcomes setup none steps ∧
      (session.afterSteps setup steps).service.backend = .none := by
  induction steps generalizing session with
  | nil => exact ⟨rfl, h⟩
  | cons first rest ih =>
      have hfirst := step_uncached setup h first
      have hrest := ih (session.step setup first).2 hfirst.2
      rw [session.step_snapshot setup first] at hrest
      rw [TimedService.outcomes, Snapshot.outcomes, hfirst.1, hrest.1]
      exact ⟨rfl, hrest.2⟩

/-- What a service with a cache shows at a step after others, told by what one without a cache shows
in the same run. -/
structure ShowsAsUncached (setup : ServiceSetup) (cached uncached : TimedService)
    (earlier : List ServiceStep) (step : ServiceStep) : Prop where
  of_kept : cached.service.backend.refusal? setup.cacheTtl = none ->
    Repeats (uncached.outcomes setup earlier)
      ((cached.afterSteps setup earlier).step setup step).1
      ((uncached.afterSteps setup earlier).step setup step).1
  of_refused : forall error, cached.service.backend.refusal? setup.cacheTtl = some error ->
    ((cached.afterSteps setup earlier).step setup step).1 =
      ((uncached.afterSteps setup earlier).step setup step).1.refusedFor error
  refused_iff : forall error, cached.service.backend.refusal? setup.cacheTtl = some error <->
    (exists cache, cached.service.backend = .memory cache) ∧
      Magnitude.overflow ≤ setup.cacheTtl.natAbs ∧ error = .time .integerTooLarge

section Uncached

variable {snapshot : Snapshot} {backend : Backend} {earlier : List ServiceStep}
  {step : ServiceStep}

theorem step_afterSteps_uncached (now : Binary64) :
    ((TimedService.afterSteps setup ⟨⟨snapshot, .none⟩, now⟩ earlier).step setup step).1 =
      (snapshot.afterSteps earlier).outcome setup none step := by
  have h := (outcomes_uncached setup ⟨⟨snapshot, .none⟩, now⟩ rfl earlier).2
  rw [(step_uncached setup h step).1, TimedService.afterSteps_snapshot]

theorem eq_refusedFor_uncached
    (now : Binary64) {error : StoreError}
    (hfresh : backend.IsFresh) (hrefusal : backend.refusal? setup.cacheTtl = some error)
    (hpages : forall request elapsed, ServiceStep.search request elapsed ∈ earlier ++ [step] ->
      request.page.isString = false)
    (hseparates : DigestSeparates (snapshot.searches setup (earlier ++ [step]))) :
    ((TimedService.afterSteps setup ⟨⟨snapshot, backend⟩, now⟩ earlier).step setup step).1 =
      ((TimedService.afterSteps setup ⟨⟨snapshot, .none⟩, now⟩ earlier).step
        setup step).1.refusedFor error := by
  have hrepeats := repeats_afterSteps ⟨⟨snapshot, backend⟩, now⟩ hfresh hrefusal hpages hseparates
  have hshown := hrepeats.withoutTime_eq
  rw [outcome_refusedFor, ← step_afterSteps_uncached now] at hshown
  exact eq_of_withoutTime_eq (refusedFor_ne_ok error _) hshown

end Uncached

def lampSnapshot (version : Nat) : Snapshot :=
  ⟨[{ id := "1", name := "Lamp" }], version⟩

def searchLamp (elapsed : Binary64) : ServiceStep :=
  .search { query := "lamp" } elapsed

def lampSteps : List ServiceStep :=
  [searchLamp .zero, searchLamp (.ofNat 1), .replace (lampSnapshot 0).catalog]

def lampSearch (version : Nat) : Pending :=
  ⟨lampSnapshot version, { query := "lamp" }, none, .int 20,
    Cache.key (SearchRequest.keyParts version { query := "lamp" } none (.int 20)), .zero⟩

theorem keyText_elapsed (pending : Pending) (elapsed : Binary64) :
    ({ pending with elapsed := elapsed } : Pending).keyText = pending.keyText := rfl

theorem lampSearches_digestSeparates :
    DigestSeparates [lampSearch 0, { lampSearch 0 with elapsed := .ofNat 1 }, lampSearch 1] := by
  have hdigest : Cache.digestText (lampSearch 0).keyText ≠
      Cache.digestText (lampSearch 1).keyText := by
    unfold Cache.digestText
    rw [Text.toUTF8_toList, Text.toUTF8_toList, String.toList_ofList, String.toList_ofList]
    decide +kernel
  have hkeyText : forall pending,
      pending ∈ [lampSearch 0, { lampSearch 0 with elapsed := .ofNat 1 }, lampSearch 1] ->
        pending.keyText = (lampSearch 0).keyText ∨ pending.keyText = (lampSearch 1).keyText := by
    intro pending hmem
    simp only [List.mem_cons, List.not_mem_nil, or_false] at hmem
    rcases hmem with rfl | rfl | rfl
    · exact Or.inl rfl
    · exact Or.inl (keyText_elapsed (lampSearch 0) (.ofNat 1))
    · exact Or.inr rfl
  intro first second hfirst hsecond heq
  rcases hkeyText first hfirst with h | h
  · rcases hkeyText second hsecond with h' | h'
    · rw [h, h']
    · rw [h, h'] at heq
      exact absurd heq hdigest
  · rcases hkeyText second hsecond with h' | h'
    · rw [h, h'] at heq
      exact absurd heq.symm hdigest
    · rw [h, h']

def lastTime? (outcomes : List ServiceOutcome) : Option (List Char) :=
  outcomes.getLast?.bind fun outcome =>
    match outcome with
    | .answered (.ok response) => (response.member? "took_ms").map Json.write
    | _ => none

theorem lastTime?_refusedFor (error : StoreError) (outcome : ServiceOutcome) :
    lastTime? [outcome.refusedFor error] = none := by
  cases outcome with
  | answered outcome => cases outcome <;> rfl
  | replaced => rfl
  | reloaded count => rfl
  | silent => rfl

def foreverSetup : ServiceSetup :=
  { cacheTtl := 10 ^ 309 }

theorem refusal?_foreverSetup (cache : MemoryCache Json) :
    (Backend.memory cache).refusal? foreverSetup.cacheTtl = some (.time .integerTooLarge) :=
  Backend.refusal?_eq_some_iff.mpr ⟨⟨cache, rfl⟩, by decide +kernel, rfl⟩

end Service

end CatalogSearch
