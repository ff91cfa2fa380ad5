import CatalogSearch.Proofs.Query.ExpressionCuts
import CatalogSearch.Proofs.Query.PriceFindings

/-!
# The price condition of a query

A query puts a price condition exactly if the text without its id has a price in it, and then
the condition is that of the leftmost price of the form that counts most.  Each of the three
searches locates its form: it ends at the leftmost place, or the form stands nowhere.
-/

namespace CatalogSearch

open Text

/-!
## Leftmost forms
-/

section Leftmost

variable {form : Place -> PricePredicate -> Prop} {text : List Char}

theorem Leftmost.occurs
    {condition : PricePredicate} {place : Place} (h : Leftmost form text condition place) :
    Occurs form text :=
  ⟨place, condition, h.inText, h.stands⟩

theorem Leftmost.place_eq
    {condition condition' : PricePredicate} {place place' : Place}
    (h : Leftmost form text condition place) (h' : Leftmost form text condition' place') :
    place' = place := by
  apply Place.eq_of_text (h'.inText.trans h.inText.symm)
  rcases Nat.lt_trichotomy place'.before.length place.before.length with hlt | heq | hgt
  · exact absurd h'.stands (h.first place' condition' h'.inText hlt)
  · exact heq
  · exact absurd h.stands (h'.first place condition h.inText hgt)

end Leftmost

namespace Pattern

structure Locates (pattern : Pattern PricePredicate)
    (form : Place -> PricePredicate -> Prop) : Prop where
  single : forall {place : Place} {condition condition' : PricePredicate},
    form place condition -> form place condition' -> condition' = condition
  found : forall {text : List Char} {found : Match PricePredicate},
    pattern.search text = some found -> exists place : Place, Leftmost form text found.value place
  absent : forall {text : List Char}, pattern.search text = none -> ¬ Occurs form text

theorem Locates.unique
    {pattern : Pattern PricePredicate} {form : Place -> PricePredicate -> Prop}
    (h : Locates pattern form) {text : List Char} {condition condition' : PricePredicate}
    {place place' : Place} (hleft : Leftmost form text condition place)
    (hleft' : Leftmost form text condition' place') :
    condition' = condition := by
  have hstands := hleft'.stands
  rw [hleft.place_eq hleft'] at hstands
  exact h.single hleft.stands hstands

theorem locates_of_iff
    {allowed : Char -> Prop} {pattern : Pattern PricePredicate}
    {form : Place -> PricePredicate -> Prop} (hcovers : Covers allowed pattern)
    (hform : forall (place : Place) (condition : PricePredicate),
      form place condition <-> exists last : Place, Finds pattern place condition last) :
    Locates pattern form := by
  constructor
  · intro place condition condition' h h'
    rcases (hform place condition).mp h with ⟨last, hfinds⟩
    rcases (hform place condition').mp h' with ⟨last', hfinds'⟩
    exact (hfinds.unique hfinds').1
  · intro text found h
    rcases finds_of_search hcovers h with ⟨first, last, htext, hfinds, hleftmost⟩
    refine ⟨first, htext, (hform first found.value).mpr ⟨last, hfinds⟩, ?_⟩
    intro other condition hother hlt hstands
    rcases (hform other condition).mp hstands with ⟨last', hfinds'⟩
    exact hleftmost other last' condition hother hlt hfinds'
  · intro text h hoccurs
    rcases hoccurs with ⟨place, condition, htext, hstands⟩
    rcases (hform place condition).mp hstands with ⟨last, hfinds⟩
    exact not_finds_of_search h htext condition last hfinds

theorem locates_markedPrice :
    Locates priceExpression Place.MarkedPrice :=
  locates_of_iff covers_priceExpression fun _ _ => markedPrice_iff

theorem locates_bareComparison :
    Locates bareComparison Place.BareComparison :=
  locates_of_iff covers_bareComparison fun _ _ => bareComparison_iff

/-- What the pattern of a range covers before the first numeral hides no range farther left. -/
theorem locates_bareRange :
    Locates bareRange Place.BareRange := by
  constructor
  · intro place condition condition' h h'
    rcases finds_bareRange h with ⟨last, hfinds⟩
    rcases finds_bareRange h' with ⟨last', hfinds'⟩
    exact (hfinds.unique hfinds').1
  · intro text found h
    rcases finds_of_search covers_bareRange h with ⟨first, last, htext, hfinds, hleftmost⟩
    rcases bareRange_of_finds hfinds with ⟨lead, start, hlead, hleadDigit, hrange⟩
    refine ⟨start, hlead.text_eq.trans htext, hrange, ?_⟩
    intro other condition hother hlt hstands
    rcases finds_bareRange hstands with ⟨last', hfinds'⟩
    have hle : first.before.length ≤ other.before.length :=
      Nat.le_of_not_lt fun hbefore => hleftmost other last' condition hother hbefore hfinds'
    rcases next_of_bareRange hstands with ⟨c, rest, hrest, hdigit⟩
    have hmem : c ∈ lead :=
      hlead.head_mem (hother.trans htext.symm) hle hlt (by rw [hrest]; rfl)
    rw [hleadDigit c hmem] at hdigit
    cases hdigit
  · intro text h hoccurs
    rcases hoccurs with ⟨place, condition, htext, hstands⟩
    rcases finds_bareRange hstands with ⟨last, hfinds⟩
    exact not_finds_of_search h htext condition last hfinds

end Pattern

/-!
## The form that counts most
-/

theorem PriceCondition.occurs
    {text : List Char} {condition : PricePredicate} (h : PriceCondition text condition) :
    Occurs Place.MarkedPrice text ∨ Occurs Place.BareRange text ∨
      Occurs Place.BareComparison text := by
  cases h with
  | marked hleft => exact Or.inl hleft.occurs
  | range _ hleft => exact Or.inr (Or.inl hleft.occurs)
  | comparison _ _ hleft => exact Or.inr (Or.inr hleft.occurs)

theorem PriceCondition.unique
    {text : List Char} {condition condition' : PricePredicate} (h : PriceCondition text condition)
    (h' : PriceCondition text condition') :
    condition' = condition := by
  cases h with
  | marked hleft =>
      cases h' with
      | marked hleft' => exact Pattern.locates_markedPrice.unique hleft hleft'
      | range hmarked _ => exact absurd hleft.occurs hmarked
      | comparison hmarked _ _ => exact absurd hleft.occurs hmarked
  | range hmarked hleft =>
      cases h' with
      | marked hleft' => exact absurd hleft'.occurs hmarked
      | range _ hleft' => exact Pattern.locates_bareRange.unique hleft hleft'
      | comparison _ hrange _ => exact absurd hleft.occurs hrange
  | comparison hmarked hrange hleft =>
      cases h' with
      | marked hleft' => exact absurd hleft'.occurs hmarked
      | range _ hleft' => exact absurd hleft'.occurs hrange
      | comparison _ _ hleft' => exact Pattern.locates_bareComparison.unique hleft hleft'

namespace Reading

theorem priceForms_spec (text : List Char) :
    (exists condition : PricePredicate, PriceCondition text condition ∧
        ((priceForms text).findSome? fun form => form).map (·.value) = some condition) ∨
      ¬ Occurs Place.MarkedPrice text ∧ ¬ Occurs Place.BareRange text ∧
        ¬ Occurs Place.BareComparison text ∧
        ((priceForms text).findSome? fun form => form).map (·.value) = none := by
  unfold priceForms
  cases hmarked : Pattern.priceExpression.search text with
  | some found =>
      rcases Pattern.locates_markedPrice.found hmarked with ⟨place, hleft⟩
      exact Or.inl ⟨found.value, .marked hleft, rfl⟩
  | none =>
      have hnoMarked := Pattern.locates_markedPrice.absent hmarked
      cases hrange : Pattern.bareRange.search text with
      | some found =>
          rcases Pattern.locates_bareRange.found hrange with ⟨place, hleft⟩
          exact Or.inl ⟨found.value, .range hnoMarked hleft, rfl⟩
      | none =>
          have hnoRange := Pattern.locates_bareRange.absent hrange
          cases hcomparison : Pattern.bareComparison.search text with
          | some found =>
              rcases Pattern.locates_bareComparison.found hcomparison with ⟨place, hleft⟩
              exact Or.inl ⟨found.value, .comparison hnoMarked hnoRange hleft, rfl⟩
          | none =>
              have hnoComparison := Pattern.locates_bareComparison.absent hcomparison
              exact Or.inr ⟨hnoMarked, hnoRange, hnoComparison, rfl⟩

/-!
## Queries
-/

def withoutId (query : List Char) : List Char :=
  match Pattern.idExpression.search (strip query) with
  | some found => found.before ++ ' ' :: found.after
  | none => strip query

theorem splitId_snd (query : List Char) :
    (splitId (strip query)).2 = withoutId query := by
  have hsplit : (splitId (strip query)).2 =
      cut (strip query) (Pattern.idExpression.search (strip query)) := rfl
  rw [hsplit, withoutId]
  cases hfound : Pattern.idExpression.search (strip query) with
  | none => rfl
  | some found =>
      rcases id_firstAt hfound with ⟨front, back, hfirst, hback⟩
      have hplace := Pattern.foundAt_of_search Pattern.covers_idExpression hfound
      have hfront : Pieces.chars front = found.before := by
        have htext := congrArg Pieces.chars hfirst.split
        rw [Pieces.chars_ofText, Pieces.chars_append, Pieces.chars_append, hfirst.text, hback,
          hplace.split, List.append_assoc, List.append_assoc] at htext
        exact (List.append_cancel_right htext).symm
      have hcut := congrArg Pieces.chars hfirst.cut
      rw [Pieces.chars_cutFirst, Pieces.chars_ofText, Pieces.chars_append, hfront] at hcut
      show blankFirst found.text (strip query) = found.before ++ ' ' :: found.after
      rw [← hback]
      exact hcut

theorem ofExpressions_price (query : List Char) :
    (ofExpressions query).criteria.price =
      ((priceForms (withoutId query)).findSome? fun form => form).map (·.value) := by
  rw [← splitId_snd]
  rfl

theorem ofExpressions_price_isSome_iff (query : List Char) :
    (ofExpressions query).criteria.price.isSome = true <->
      Occurs Place.MarkedPrice (withoutId query) ∨ Occurs Place.BareRange (withoutId query) ∨
        Occurs Place.BareComparison (withoutId query) := by
  rw [ofExpressions_price]
  rcases priceForms_spec (withoutId query) with ⟨condition, hcondition, hsome⟩ | hnone
  · rw [hsome]
    exact ⟨fun _ => hcondition.occurs, fun _ => rfl⟩
  · rcases hnone with ⟨hmarked, hrange, hcomparison, hnone⟩
    rw [hnone]
    constructor
    · intro hsome
      cases hsome
    · rintro (hoccurs | hoccurs | hoccurs)
      · exact absurd hoccurs hmarked
      · exact absurd hoccurs hrange
      · exact absurd hoccurs hcomparison

theorem ofExpressions_price_eq_some_iff (query : List Char) (condition : PricePredicate) :
    (ofExpressions query).criteria.price = some condition <->
      PriceCondition (withoutId query) condition := by
  constructor
  · intro h
    rw [ofExpressions_price] at h
    rcases priceForms_spec (withoutId query) with ⟨other, hother, hsome⟩ | hnone
    · rw [hsome] at h
      rw [← Option.some.inj h]
      exact hother
    · rw [hnone.2.2.2] at h
      cases h
  · intro hcondition
    have hsome := (ofExpressions_price_isSome_iff query).mpr hcondition.occurs
    rw [ofExpressions_price] at hsome ⊢
    rcases priceForms_spec (withoutId query) with ⟨other, hother, hfound⟩ | hnone
    · rw [hfound, hcondition.unique hother]
    · rw [hnone.2.2.2] at hsome
      cases hsome

/-- The price condition of a query is the one that the grammar of prices gives to the text without
its id, and there is one exactly if that text has a price in it. -/
theorem ofExpressions_price_iff (query : List Char) :
    ((ofExpressions query).criteria.price.isSome = true <->
        Occurs Place.MarkedPrice (withoutId query) ∨ Occurs Place.BareRange (withoutId query) ∨
          Occurs Place.BareComparison (withoutId query)) ∧
      forall condition : PricePredicate,
        (ofExpressions query).criteria.price = some condition <->
          PriceCondition (withoutId query) condition := by
  constructor
  · exact ofExpressions_price_isSome_iff query
  · exact ofExpressions_price_eq_some_iff query

/-- A numeral that a letter continues is none, so that this price is no range. -/
example : (ofExpressions "price:40-120x 5-7".toList).criteria.price =
    some (.compare .equal (.ofNat 40)) := by
  decide +kernel

end Reading

end CatalogSearch
