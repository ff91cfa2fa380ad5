import CatalogSearch.Proofs.Query.PriceFindings

/-!
# Amounts in phrases

The amount of a phrase is the longest numeral at its place.  Unlike a numeral of the price
grammar it may begin within a word or a number and may end there.
-/

namespace CatalogSearch

open Text

namespace Place

/-- A numeral that covers as many digits as a run of digits with one or two decimals can. -/
structure LongestNumeral (first : Place) (digits : Pattern.Digits) (last : Place) : Prop where
  reads : first.Reads (digits.whole ++ pointed digits.fraction) last
  whole_ne_nil : digits.whole ≠ []
  whole : forall c : Char, c ∈ digits.whole -> isDigit c = true
  fraction : forall c : Char, c ∈ digits.fraction -> isDigit c = true
  fraction_length : digits.fraction.length ≤ 2
  ends : digits.fraction.length < 2 ->
    forall c : Char, last.rest.head? = some c -> isDigit c = false
  no_decimals : digits.fraction = [] ->
    forall (c : Char) (rest : List Char), last.rest = '.' :: c :: rest -> isDigit c = false

def ReadsAmount (first : Place) (digits : Pattern.Digits) (last : Place) : Prop :=
  exists middle : Place, first.ReadsDollar middle ∧ middle.LongestNumeral digits last

end Place

namespace Pattern

variable {α : Type}

theorem exists_finds_decimals
    {first : Place} {c : Char} {rest : List Char} (hrest : first.rest = '.' :: c :: rest)
    (hc : isDigit c = true) :
    exists (fraction : List Char) (last : Place), Finds decimals first fraction last := by
  have hone : first.Reads ('.' :: [c]) ⟨first.before ++ ['.', c], rest⟩ := ⟨rfl, hrest⟩
  cases rest with
  | nil =>
      refine ⟨[c], _, finds_decimals.mpr ⟨hone, List.forall_mem_singleton.mpr hc, ?_⟩⟩
      exact Or.inl ⟨rfl, nofun⟩
  | cons d rest =>
      cases hd : isDigit d with
      | false =>
          refine ⟨[c], _, finds_decimals.mpr ⟨hone, List.forall_mem_singleton.mpr hc, ?_⟩⟩
          refine Or.inl ⟨rfl, ?_⟩
          intro e he
          rw [← Option.some.inj he]
          exact hd
      | true =>
          have htwo : first.Reads ('.' :: [c, d]) ⟨first.before ++ ['.', c, d], rest⟩ :=
            ⟨rfl, hrest⟩
          refine ⟨[c, d], _, finds_decimals.mpr ⟨htwo, ?_, Or.inr rfl⟩⟩
          exact List.forall_mem_cons.mpr ⟨hc, List.forall_mem_singleton.mpr hd⟩

theorem longestNumeral_of_finds
    {first last : Place} {digits : Digits} (h : Finds numeral first digits last) :
    first.LongestNumeral digits last := by
  unfold numeral at h
  simp only [finds_bind, finds_pure] at h
  rcases h with ⟨whole, middle, hwhole, found, _, hfound, hdigits, rfl⟩
  rcases finds_someWhere.mp hwhole with ⟨hreads, hne, hall, hends⟩
  rw [hdigits]
  rcases finds_perhaps.mp hfound with ⟨fraction, hsome, hdecimals⟩ | ⟨hnone, rfl, hno⟩
  · rcases finds_decimals.mp hdecimals with ⟨hpointed, hfraction, hlength⟩
    rw [hsome]
    cases fraction with
    | nil => simp at hlength
    | cons c fraction =>
        refine ⟨hreads.trans hpointed, hne, hall, hfraction, ?_, ?_, nofun⟩
        · show (c :: fraction).length ≤ 2
          omega
        · intro hshort
          have hone : (c :: fraction).length < 2 := hshort
          rcases hlength with hlast | htwo
          · exact hlast.2
          · omega
  · rw [hnone]
    have hempty : first.Reads (whole ++ []) last := by
      rw [List.append_nil]
      exact hreads
    refine ⟨hempty, hne, hall, nofun, Nat.zero_le 2, fun _ => hends, ?_⟩
    intro _ c rest hrest
    cases hc : isDigit c with
    | false => rfl
    | true =>
        rcases exists_finds_decimals hrest hc with ⟨fraction, last', hdecimals⟩
        exact absurd hdecimals (hno fraction last')

theorem finds_of_longestNumeral
    {first last : Place} {digits : Digits} (h : first.LongestNumeral digits last) :
    Finds numeral first digits last := by
  rcases digits with ⟨whole, fraction⟩
  unfold numeral
  simp only [finds_bind, finds_pure]
  rcases h.reads.split with ⟨middle, hwhole, hpointed⟩
  cases fraction with
  | nil =>
      have hmiddle : last = middle := Place.Reads.nil_iff.mp hpointed
      have hends := h.ends (Nat.zero_lt_two)
      rw [hmiddle] at hends
      refine ⟨whole, middle, finds_someWhere.mpr ⟨hwhole, h.whole_ne_nil, h.whole, hends⟩,
        none, middle, finds_perhaps.mpr (Or.inr ⟨rfl, rfl, ?_⟩), rfl, hmiddle⟩
      intro list other hdecimals
      rcases finds_decimals.mp hdecimals with ⟨hreads, hlist, hlength⟩
      cases list with
      | nil => simp at hlength
      | cons c list =>
          have hc := h.no_decimals rfl c (list ++ other.rest) (by rw [hmiddle]; exact hreads.rest)
          rw [hlist c List.mem_cons_self] at hc
          cases hc
  | cons c fraction =>
      have hpoint : forall d : Char, middle.rest.head? = some d -> isDigit d = false := by
        intro d hhead
        rw [hpointed.rest] at hhead
        rw [← Option.some.inj hhead]
        decide
      refine ⟨whole, middle, finds_someWhere.mpr ⟨hwhole, h.whole_ne_nil, h.whole, hpoint⟩,
        some (c :: fraction), last, finds_perhaps.mpr (Or.inl ⟨_, rfl, ?_⟩), rfl, rfl⟩
      refine finds_decimals.mpr ⟨hpointed, h.fraction, ?_⟩
      have hlength : (c :: fraction).length ≤ 2 := h.fraction_length
      have hends : (c :: fraction).length < 2 -> _ := h.ends
      rw [List.length_cons] at hlength hends ⊢
      rcases Nat.eq_zero_or_pos fraction.length with hzero | hpos
      · exact Or.inl ⟨by rw [hzero], hends (by omega)⟩
      · exact Or.inr (by omega)

theorem finds_numeral
    {first last : Place} {digits : Digits} :
    Finds numeral first digits last <-> first.LongestNumeral digits last :=
  ⟨longestNumeral_of_finds, finds_of_longestNumeral⟩

theorem opens_numeral :
    Opens (fun c => isDigit c = true) numeral := by
  intro first last digits h
  have hnumeral := finds_numeral.mp h
  exact hnumeral.reads.next_run hnumeral.whole_ne_nil hnumeral.whole

theorem finds_amount
    {first last : Place} {digits : Digits} :
    Finds amount first digits last <-> first.ReadsAmount digits last := by
  have hopens : Opens (fun c => ¬ c = '$') numeral := fun h =>
    (opens_numeral h).mono fun _ hc => ne_of_class hc (by decide)
  unfold amount
  rw [finds_dollar hopens]
  simp only [finds_numeral]
  rfl

end Pattern

end CatalogSearch
