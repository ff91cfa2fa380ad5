import CatalogSearch.Proofs.Service.Answer

/-!
# Keys of searches

What stands in a part of a key can not pass for the end of it, so the text of a
key shows its parts one by one.  Two searches therefore have one key text only
if they ask for the same, whatever characters a query, a brand or a category is
made of.
-/

namespace CatalogSearch

namespace Service

/-- What the texts of keys tell apart. -/
structure KeyTextsTellApart : Prop where
  /-- Lists of parts, if they differ in length or in a part as it is shown. -/
  parts_iff : forall first second : List Json,
    Cache.keyText first = Cache.keyText second <->
      List.Forall₂ (fun part other => part.shown = other.shown) first second
  /-- Searches, if they differ in anything, with page and size as they are shown. -/
  searches_iff : forall first second : Pending,
    first.keyText = second.keyText <-> AskedAlike first second
  /-- Searches that have started, if they differ in anything and their pages are numbers. -/
  started_iff : forall (setup : ServiceSetup) (snapshot other : Snapshot)
      (request asked : SearchRequest) (elapsed took : Binary64) (first second : Pending),
    request.page.isNumber = true -> asked.page.isNumber = true ->
      (start setup snapshot request elapsed).value = .ok first ->
      (start setup other asked took).value = .ok second ->
        (first.keyText = second.keyText <-> SameSearch first second)

/-- Key texts tell apart whatever differs. -/
theorem keyTexts_tellApart : KeyTextsTellApart := by
  constructor
  · exact fun _ _ => Cache.keyText_eq_iff
  · exact fun _ _ => keyText_eq_iff_askedAlike
  · intro setup snapshot other request asked elapsed took first second hpage hotherPage hfirst
      hsecond
    rcases start_eq_ok hfirst with ⟨_, rfl, _, hsize⟩
    rcases start_eq_ok hsecond with ⟨_, rfl, _, hotherSize⟩
    constructor
    · exact sameSearch_of_keyText_eq hpage (Json.isString_of_isNumber hotherPage) hsize hotherSize
    · intro hsame
      exact keyText_eq_iff_askedAlike.mpr
        { hsame with page := by rw [hsame.page], size := by rw [hsame.size] }

def quotingRequest : SearchRequest :=
  { query := "lamp\", \"name" }

def sortedRequest : SearchRequest :=
  { query := "lamp", sort := .string "name" }

def startedSearch (request : SearchRequest) (sortKey : Option SortKey) : Pending :=
  let parts := SearchRequest.keyParts 0 request sortKey (.int 20)
  ⟨⟨[], 0⟩, request, sortKey, .int 20, Cache.key parts, .zero⟩

theorem keyTexts_tellApart_quotingRequest :
    quotingRequest.page.isNumber = true ∧ sortedRequest.page.isNumber = true ∧
      (start {} ⟨[], 0⟩ quotingRequest .zero).value = .ok (startedSearch quotingRequest none) ∧
      (start {} ⟨[], 0⟩ sortedRequest .zero).value =
        .ok (startedSearch sortedRequest (some .name)) ∧
      (startedSearch quotingRequest none).keyText ≠
        (startedSearch sortedRequest (some .name)).keyText := by
  have hfirst : (start {} ⟨[], 0⟩ quotingRequest .zero).value =
      .ok (startedSearch quotingRequest none) := by
    rfl
  have hsecond : (start {} ⟨[], 0⟩ sortedRequest .zero).value =
      .ok (startedSearch sortedRequest (some .name)) := by
    rfl
  refine ⟨rfl, rfl, hfirst, hsecond, ?_⟩
  intro heq
  have hsame := (keyTexts_tellApart.started_iff {} _ _ quotingRequest sortedRequest _ _ _ _ rfl rfl
    hfirst hsecond).mp heq
  exact absurd hsame.query (by decide)

end Service

end CatalogSearch
