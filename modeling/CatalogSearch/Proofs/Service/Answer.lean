import CatalogSearch.Proofs.Cache.KeyText
import CatalogSearch.Proofs.Json.ShownText
import CatalogSearch.Service.Basic

/-!
# Keys and answers

Two searches with one key text are answered alike, if their versions mean one catalog.  The key
text shows the query, the order, the page, its size and the bounds exactly, and of a brand or a
category whether one is asked for.  Alike means but for the time that a search took.
-/

namespace CatalogSearch

open Json

def Json.withoutTime : Json -> Json
  | .object members => .object (members.filter fun member => member.1 != "took_ms")
  | value => value

theorem Results.withoutTime_response (results : Results) (query : String) (page : Page)
    (elapsed other : Binary64) :
    (results.response query page elapsed).withoutTime =
      (results.response query page other).withoutTime := by
  simp [Results.response, Json.withoutTime]

/-!
## Refinements that ask for the same
-/

theorem asksFor_congr
    {first second : Option String} (h : first.getD "" = second.getD "") :
    Refinement.asksFor first = Refinement.asksFor second := by
  have hgetD : forall name : Option String, Refinement.asksFor name = (name.getD "" != "") := by
    intro name
    cases name with
    | none => rfl
    | some name => rfl
  rw [hgetD first, hgetD second, h]

theorem nameAgrees_congr
    {first second : Option String} (actual : Option String)
    (h : first.getD "" = second.getD "") :
    Refinement.nameAgrees first actual = Refinement.nameAgrees second actual := by
  have hgetD : forall name : Option String, Refinement.nameAgrees name actual =
      Refinement.nameAgrees (some (name.getD "")) actual := by
    intro name
    cases name with
    | none => rfl
    | some name => rfl
  rw [hgetD first, hgetD second, h]

theorem narrow_congr
    {first second : Refinement} (catalog : List Product)
    (hbrand : first.brand.getD "" = second.brand.getD "")
    (hcategory : first.category.getD "" = second.category.getD "")
    (hmin : first.minPrice = second.minPrice) (hmax : first.maxPrice = second.maxPrice) :
    first.narrow catalog = second.narrow catalog := by
  have hempty : first.isEmpty = second.isEmpty := by
    unfold Refinement.isEmpty
    rw [asksFor_congr hbrand, asksFor_congr hcategory, hmin, hmax]
  have hholds : first.holds = second.holds := by
    funext product
    unfold Refinement.holds
    rw [nameAgrees_congr product.brand hbrand, nameAgrees_congr product.category hcategory, hmin,
      hmax]
  unfold Refinement.narrow
  rw [hempty, hholds]

/-!
## What a key text shows
-/

/-- A bound as the value that its part of a key shows. -/
def boundValue : Option Number -> Json
  | none => .null
  | some (.integer n) => .int n
  | some (.binary x) => .float x

def valueBound : Json -> Option Number
  | .int n => some (.integer n)
  | .float x => some (.binary x)
  | _ => none

theorem valueBound_boundValue (bound : Option Number) :
    valueBound (boundValue bound) = bound := by
  cases bound with
  | none => rfl
  | some bound =>
      cases bound with
      | integer n => rfl
      | binary x => rfl

theorem shown_boundPart (bound : Option Number) :
    (SearchRequest.boundPart bound).shown = (boundValue bound).shown := by
  cases bound with
  | none => rfl
  | some bound =>
      cases bound with
      | integer n => exact String.toList_ofList
      | binary x => exact String.toList_ofList

theorem boundPart_shown_injective
    {first second : Option Number}
    (h : (SearchRequest.boundPart first).shown = (SearchRequest.boundPart second).shown) :
    first = second := by
  rw [shown_boundPart, shown_boundPart] at h
  have hkind : forall bound : Option Number, (boundValue bound).isString = false ∧
      (bound ≠ none -> (boundValue bound).isNumber = true) := by
    intro bound
    cases bound with
    | none => exact ⟨rfl, fun hne => absurd rfl hne⟩
    | some bound =>
        cases bound with
        | integer n => exact ⟨rfl, fun _ => rfl⟩
        | binary x => exact ⟨rfl, fun _ => rfl⟩
  have hvalues : boundValue first = boundValue second := by
    by_cases hfirst : first = none
    · by_cases hsecond : second = none
      · rw [hfirst, hsecond]
      · exact (shown_injective ((hkind second).2 hsecond) (hkind first).1 h.symm).symm
    · exact shown_injective ((hkind first).2 hfirst) (hkind second).1 h
  rw [← valueBound_boundValue first, hvalues, valueBound_boundValue]

theorem ofName?_sortText (key : Option SortKey) :
    SortKey.ofName? ((key.map SortKey.text).getD "") = key := by
  cases key with
  | none => decide
  | some key =>
      cases key with
      | name => decide
      | priceAscending => decide
      | priceDescending => decide
      | id => decide

theorem sortText_injective
    {first second : Option SortKey}
    (h : (first.map SortKey.text).getD "" = (second.map SortKey.text).getD "") :
    first = second := by
  rw [← ofName?_sortText first, h, ofName?_sortText]

namespace Service

open SearchRequest

namespace Pending

def parts (pending : Pending) : List Json :=
  keyParts pending.snapshot.version pending.request pending.sortKey pending.size

def keyText (pending : Pending) : List Char :=
  Cache.keyText pending.parts

end Pending

/-- Everything in which two searches with one key text agree, page and size as they are shown. -/
structure AskedAlike (first second : Pending) : Prop where
  version : first.snapshot.version = second.snapshot.version
  query : first.request.query = second.request.query
  sortKey : first.sortKey = second.sortKey
  page : first.request.page.shown = second.request.page.shown
  size : first.size.shown = second.size.shown
  brand : first.request.brand.getD "" = second.request.brand.getD ""
  category : first.request.category.getD "" = second.request.category.getD ""
  minPrice : first.request.minPrice = second.request.minPrice
  maxPrice : first.request.maxPrice = second.request.maxPrice

/-- Two searches have one key text exactly if they ask for the same of one version. -/
theorem keyText_eq_iff_askedAlike {first second : Pending} :
    first.keyText = second.keyText <-> AskedAlike first second := by
  constructor
  · intro h
    have hshown := Cache.shown_eq_of_keyText_eq h
    simp only [Pending.parts, keyParts, List.map_cons, List.map_nil, List.cons.injEq] at hshown
    rcases hshown with ⟨hversion, hquery, hsort, hpage, hsize, hbrand, hcategory, hmin, hmax, _⟩
    exact {
      version := Int.ofNat_inj.mp (integerText_injective hversion)
      query := String.toList_inj.mp hquery
      sortKey := sortText_injective (String.toList_inj.mp hsort)
      page := hpage
      size := hsize
      brand := String.toList_inj.mp hbrand
      category := String.toList_inj.mp hcategory
      minPrice := boundPart_shown_injective hmin
      maxPrice := boundPart_shown_injective hmax
    }
  · intro h
    apply Cache.keyText_eq_iff.mpr
    simp [Pending.parts, keyParts, h.version, h.query, h.sortKey, h.page, h.size, h.brand,
      h.category, h.minPrice, h.maxPrice]

structure SameSearch (first second : Pending) : Prop where
  version : first.snapshot.version = second.snapshot.version
  query : first.request.query = second.request.query
  sortKey : first.sortKey = second.sortKey
  page : first.request.page = second.request.page
  size : first.size = second.size
  brand : first.request.brand.getD "" = second.request.brand.getD ""
  category : first.request.category.getD "" = second.request.category.getD ""
  minPrice : first.request.minPrice = second.request.minPrice
  maxPrice : first.request.maxPrice = second.request.maxPrice

theorem sameSearch_of_keyText_eq
    {first second : Pending} (hpage : first.request.page.isNumber = true)
    (hotherPage : second.request.page.isString = false)
    (hsize : first.size.isNumber = true) (hotherSize : second.size.isNumber = true)
    (h : first.keyText = second.keyText) :
    SameSearch first second := by
  have hasked := keyText_eq_iff_askedAlike.mp h
  exact {
    hasked with
    page := shown_injective hpage hotherPage hasked.page
    size := shown_injective hsize (isString_of_isNumber hotherSize) hasked.size
  }

/-!
## Answers
-/

theorem answer_congr
    {first second : Pending} (setup : ServiceSetup) (h : SameSearch first second)
    (hsnapshot : first.snapshot = second.snapshot) :
    first.answer setup = ({ second with elapsed := first.elapsed } : Pending).answer setup := by
  have hnarrow : first.request.refinement.narrow first.snapshot.catalog =
      second.request.refinement.narrow second.snapshot.catalog := by
    rw [hsnapshot]
    exact narrow_congr _ h.brand h.category h.minPrice h.maxPrice
  unfold Pending.answer Service.answer Results.ofQuery
  simp only [hnarrow, h.query, h.sortKey, h.page, h.size]

/-- An answer is that of some results, with a page of them, at whatever time. -/
theorem answer_cases (setup : ServiceSetup) (pending : Pending) :
    (exists error, forall elapsed,
        (({ pending with elapsed := elapsed } : Pending).answer setup).value = .error error) ∨
      exists (results : Results) (page size : Int),
        pending.request.page.toInteger = .ok page ∧ pending.size.toInteger = .ok size ∧
          forall elapsed, (({ pending with elapsed := elapsed } : Pending).answer setup).value =
            .ok (results.response pending.request.query (results.page page size) elapsed) := by
  unfold Pending.answer Service.answer
  simp only [Reported.map_value]
  generalize Results.ofQuery pending.snapshot.catalog pending.request.query.toList _ = results
  cases hpage : pending.request.page.toInteger with
  | error error => exact Or.inl ⟨error, fun _ => rfl⟩
  | ok page =>
      cases hsize : pending.size.toInteger with
      | error error => exact Or.inl ⟨error, fun _ => rfl⟩
      | ok size => exact Or.inr ⟨results.value, page, size, rfl, rfl, fun _ => rfl⟩

theorem answer_eq_ok
    {setup : ServiceSetup} {pending : Pending} {response : Json}
    (h : (pending.answer setup).value = .ok response) :
    exists (results : Results) (page size : Int),
      pending.request.page.toInteger = .ok page ∧ pending.size.toInteger = .ok size ∧
        response = results.response pending.request.query (results.page page size)
          pending.elapsed := by
  rcases answer_cases setup pending with ⟨error, herror⟩ | ⟨results, page, size, hpage, hsize, hall⟩
  · cases h.symm.trans (herror pending.elapsed)
  · injection h.symm.trans (hall pending.elapsed) with hresponse
    exact ⟨results, page, size, hpage, hsize, hresponse⟩

/-- Two times at which a search is answered show in its answer, and nowhere else. -/
theorem withoutTime_answer (setup : ServiceSetup) (pending : Pending) (elapsed : Binary64) :
    (({ pending with elapsed := elapsed } : Pending).answer setup).value.map withoutTime =
      (pending.answer setup).value.map withoutTime := by
  rcases answer_cases setup pending with ⟨error, herror⟩ | ⟨results, page, size, _, _, hall⟩
  · exact (congrArg _ (herror elapsed)).trans (congrArg _ (herror pending.elapsed)).symm
  · have hfirst := congrArg (Except.map withoutTime) (hall elapsed)
    have hsecond := congrArg (Except.map withoutTime) (hall pending.elapsed)
    refine hfirst.trans (Eq.trans ?_ hsecond.symm)
    exact congrArg Except.ok (results.withoutTime_response _ _ _ _)

theorem withoutTime_answer_congr
    {first second : Pending} (setup : ServiceSetup) (h : SameSearch first second)
    (hsnapshot : first.snapshot = second.snapshot) :
    (first.answer setup).value.map withoutTime =
      (second.answer setup).value.map withoutTime := by
  rw [answer_congr setup h hsnapshot]
  exact withoutTime_answer setup second first.elapsed

theorem page_isNumber_of_answer
    {setup : ServiceSetup} {pending : Pending} {response : Json}
    (hanswer : (pending.answer setup).value = .ok response)
    (hpage : pending.request.page.isString = false) :
    pending.request.page.isNumber = true := by
  rcases answer_eq_ok hanswer with ⟨_, page, _, htoInteger, _, _⟩
  cases hvalue : pending.request.page with
  | bool value => rfl
  | int value => rfl
  | float value => rfl
  | string text =>
      rw [hvalue] at hpage
      cases hpage
  | null =>
      rw [hvalue] at htoInteger
      cases htoInteger
  | array items =>
      rw [hvalue] at htoInteger
      cases htoInteger
  | object members =>
      rw [hvalue] at htoInteger
      cases htoInteger

/-!
## Started searches
-/

theorem effectiveSize_isNumber
    {settings : Settings} {request : SearchRequest} {size : Json}
    (h : effectiveSize settings request = .ok size) :
    size.isNumber = true := by
  unfold effectiveSize at h
  generalize hasked : (if request.pageSize.isPresent then request.pageSize
    else .int settings.pageSize) = asked at h
  have hkind : forall tooLarge : Bool, exceedsLimit settings.maxPageSize asked = .ok tooLarge ->
      asked.isNumber = true := by
    intro tooLarge hlimit
    cases asked with
    | bool value => rfl
    | int value => rfl
    | float value => rfl
    | null => cases hlimit
    | string text => cases hlimit
    | array items => cases hlimit
    | object members => cases hlimit
  cases hlimit : exceedsLimit settings.maxPageSize asked with
  | error error =>
      simp only [hlimit] at h
      cases h
  | ok tooLarge =>
      simp only [hlimit] at h
      injection h with hsize
      rw [← hsize]
      cases tooLarge with
      | true => rfl
      | false => exact hkind false hlimit

theorem start_eq_ok
    {setup : ServiceSetup} {snapshot : Snapshot} {request : SearchRequest}
    {elapsed : Binary64} {pending : Pending}
    (h : (start setup snapshot request elapsed).value = .ok pending) :
    pending.snapshot = snapshot ∧ pending.request = request ∧
      pending.key = Cache.key pending.parts ∧ pending.size.isNumber = true := by
  unfold start at h
  rw [Reported.map_value] at h
  cases hsize : effectiveSize setup.settings request with
  | error error =>
      rw [hsize] at h
      cases h
  | ok size =>
      rw [hsize] at h
      injection h with hpending
      subst hpending
      exact ⟨rfl, rfl, rfl, effectiveSize_isNumber hsize⟩

end Service

end CatalogSearch
