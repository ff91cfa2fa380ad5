import CatalogSearch.Product.Row
import CatalogSearch.Proofs.Number.Range
import CatalogSearch.Proofs.Query.Hits

/-!
# Prices that rows give

A row gives its price as a number or as a text.  An integer and the number that
a text writes are of any size, and the price kept for them is the nearest
number: an integer beyond the numbers is refused with the whole catalog, and a
text beyond the numbers gives an infinite price.
-/

namespace CatalogSearch

open Text

namespace PriceLabel

/-!
## Prices in texts
-/

def plainText (whole fraction : List Char) : List Char :=
  whole ++ if fraction = [] then [] else '.' :: fraction

/-- A text writes a price by digits and perhaps a point and more digits; commas, a dollar sign and
white space around it count for nothing. -/
structure Writes (text whole fraction : List Char) : Prop where
  form : withoutSign (strip (text.filter (· != ','))) = plainText whole fraction
  whole_ne_nil : whole ≠ []
  whole_digits : forall c : Char, c ∈ whole -> isDigit c = true
  fraction_digits : forall c : Char, c ∈ fraction -> isDigit c = true

def writtenNumber (whole fraction : List Char) : Binary64 :=
  .ofDecimal false (digitsValue (whole ++ fraction)) (-(fraction.length : Int))

theorem readPlain_plainText {whole fraction : List Char} (hne : whole ≠ [])
    (hwhole : forall c : Char, c ∈ whole -> isDigit c = true)
    (hfraction : forall c : Char, c ∈ fraction -> isDigit c = true) :
    readPlain (plainText whole fraction) = some (writtenNumber whole fraction) := by
  have hpoint : forall c : Char,
      (if fraction = [] then [] else '.' :: fraction).head? = some c -> isDigit c = false := by
    intro c hhead
    split at hhead
    · cases hhead
    · rw [← Option.some.inj hhead]
      decide
  rcases Pattern.takeWhile_run hwhole hpoint with ⟨htake, hdrop⟩
  have hnonempty : whole.isEmpty = false := by simpa using hne
  unfold readPlain plainText
  rw [htake, hdrop]
  cases fraction with
  | nil => simp [hnonempty, writtenNumber]
  | cons c rest =>
      have hall : (c :: rest).all isDigit = true := List.all_eq_true.mpr hfraction
      simp [hnonempty, hall, writtenNumber]

theorem plainText_of_readPlain {text : List Char} {price : Binary64}
    (h : readPlain text = some price) :
    exists whole fraction : List Char,
      text = plainText whole fraction ∧ whole ≠ [] ∧
        (forall c : Char, c ∈ whole -> isDigit c = true) ∧
        (forall c : Char, c ∈ fraction -> isDigit c = true) := by
  have hsplit := @List.takeWhile_append_dropWhile _ isDigit text
  have hdigits : forall c : Char, c ∈ text.takeWhile isDigit -> isDigit c = true :=
    fun _ hmem => Pattern.mem_takeWhile hmem
  unfold readPlain at h
  generalize text.takeWhile isDigit = whole at h hsplit hdigits
  dsimp only at h
  split at h
  · cases h
  · rename_i hwhole
    have hne : whole ≠ [] := by simpa using hwhole
    split at h
    · rename_i hrest
      rw [hrest] at hsplit
      refine ⟨whole, [], hsplit.symm, hne, hdigits, ?_⟩
      intro c hmem
      cases hmem
    · rename_i fraction hrest
      split at h
      · cases h
      · rename_i hfraction
        have hparts : fraction ≠ [] ∧ forall c : Char, c ∈ fraction -> isDigit c = true := by
          simpa using hfraction
        rw [hrest] at hsplit
        refine ⟨whole, fraction, ?_, hne, hdigits, hparts.2⟩
        rw [plainText, if_neg hparts.1, hsplit]
    · cases h

/-- The price of a text is the number that it writes. -/
theorem readText_eq_some_iff {text : List Char} {price : Binary64} :
    readText text = some price <->
      exists whole fraction : List Char,
        Writes text whole fraction ∧ price = writtenNumber whole fraction := by
  constructor
  · intro h
    rcases plainText_of_readPlain h with ⟨whole, fraction, hform, hne, hwhole, hfraction⟩
    refine ⟨whole, fraction, ⟨hform, hne, hwhole, hfraction⟩, ?_⟩
    unfold readText at h
    rw [hform, readPlain_plainText hne hwhole hfraction] at h
    exact (Option.some.inj h).symm
  · intro h
    rcases h with ⟨whole, fraction, hwrites, rfl⟩
    unfold readText
    rw [hwrites.form]
    exact readPlain_plainText hwrites.whole_ne_nil hwrites.whole_digits hwrites.fraction_digits

theorem isFinite_writtenNumber_iff {whole fraction : List Char} :
    (writtenNumber whole fraction).isFinite = true <->
      digitsValue (whole ++ fraction) < Magnitude.overflow * 10 ^ fraction.length :=
  Binary64.isFinite_ofDecimal_iff false _ _

end PriceLabel

namespace Product

/-!
## Prices beyond the numbers
-/

def priceMember? : Json -> Option Json
  | .object members => member? members ["price"]
  | _ => none

/-- The price of a row is an integer that no number is near to. -/
def IntegerPriceOverflows (row : Json) : Prop :=
  exists price : Int, priceMember? row = some (.int price) ∧ Magnitude.overflow ≤ price.natAbs

def TextPriceOverflows (row : Json) : Prop :=
  exists (text : String) (whole fraction : List Char),
    priceMember? row = some (.string text) ∧ PriceLabel.Writes text.toList whole fraction ∧
      Magnitude.overflow * 10 ^ fraction.length ≤ digitsValue (whole ++ fraction)

theorem readPrice_eq_error_iff {row : Json} {error : RowError} :
    readPrice (priceMember? row) = .error error <->
      IntegerPriceOverflows row ∧ error = .price .integerTooLarge := by
  unfold IntegerPriceOverflows
  cases priceMember? row with
  | none => simp [readPrice]
  | some value =>
      cases value with
      | int value =>
          have hcause := fun cause => @Json.binaryOfInteger_eq_error_iff value cause
          show (((Json.binaryOfInteger value).map some).mapError RowError.price = _) <-> _
          cases hvalue : Json.binaryOfInteger value with
          | ok number =>
              have hnot : ¬ Magnitude.overflow ≤ value.natAbs := by
                intro hle
                have herror := (hcause .integerTooLarge).mpr ⟨hle, rfl⟩
                rw [hvalue] at herror
                cases herror
              simp [Except.map, Except.mapError, hnot]
          | error cause =>
              rcases (hcause cause).mp hvalue with ⟨hle, rfl⟩
              simp [Except.map, Except.mapError, hle, eq_comm]
      | null => simp [readPrice, PriceLabel.read, Except.mapError]
      | bool value => simp [readPrice, PriceLabel.read, Except.mapError]
      | float value => simp [readPrice, PriceLabel.read, Except.mapError]
      | string text => simp [readPrice, PriceLabel.read, Except.mapError]
      | array items => simp [readPrice, PriceLabel.read, Except.mapError]
      | object members => simp [readPrice, PriceLabel.read, Except.mapError]

/-!
## Faults of other members
-/

def BlamesNoPrice {α : Type} (outcome : Except RowError α) : Prop :=
  forall cause : NumberError, outcome ≠ .error (.price cause)

theorem blamesNoPrice_ok {α : Type} (value : α) :
    BlamesNoPrice (.ok value) := by
  intro cause h
  cases h

theorem BlamesNoPrice.bind {α β : Type} {outcome : Except RowError α}
    {next : α -> Except RowError β} (houtcome : BlamesNoPrice outcome)
    (hnext : forall value : α, BlamesNoPrice (next value)) :
    BlamesNoPrice (outcome >>= next) := by
  cases outcome with
  | error error => exact fun cause h => houtcome cause (congrArg _ (Except.error.inj h))
  | ok value => exact hnext value

theorem BlamesNoPrice.map {α β : Type} {outcome : Except RowError α}
    (houtcome : BlamesNoPrice outcome) (f : α -> β) :
    BlamesNoPrice (f <$> outcome) := by
  cases outcome with
  | error error => exact fun cause h => houtcome cause (congrArg _ (Except.error.inj h))
  | ok value => exact blamesNoPrice_ok _

theorem blamesNoPrice_readShown (value : Json) :
    BlamesNoPrice (readShown value) := by
  unfold readShown
  split
  · exact blamesNoPrice_ok _
  · intro cause h
    cases h

theorem blamesNoPrice_nonBlank (text : List Char) :
    BlamesNoPrice (readId.nonBlank text) := by
  unfold readId.nonBlank
  split
  · intro cause h
    cases h
  · exact blamesNoPrice_ok _

theorem blamesNoPrice_readId (value : Option Json) :
    BlamesNoPrice (readId value) := by
  unfold readId
  split
  · intro cause h
    cases h
  · exact blamesNoPrice_nonBlank _
  · exact (blamesNoPrice_readShown _).bind blamesNoPrice_nonBlank
  · intro cause h
    cases h

theorem blamesNoPrice_readText (value : Option Json) :
    BlamesNoPrice (readText value) := by
  unfold readText
  split
  · exact blamesNoPrice_ok _
  · exact blamesNoPrice_ok _
  · exact (blamesNoPrice_readShown _).map _

theorem blamesNoPrice_readLabel (value : Option Json) :
    BlamesNoPrice (readLabel value) := by
  unfold readLabel
  split
  · exact blamesNoPrice_ok _
  · exact blamesNoPrice_ok _
  · exact (blamesNoPrice_readShown _).map _

theorem blamesNoPrice_ofMembers {members : List (String × Json)} {price : Option Binary64}
    (hprice : readPrice (member? members ["price"]) = .ok price) :
    BlamesNoPrice (ofMembers members) := by
  unfold ofMembers
  rw [hprice]
  refine (blamesNoPrice_ok price).bind fun _ => ?_
  refine (blamesNoPrice_readId _).bind fun _ => ?_
  refine (blamesNoPrice_readText _).bind fun _ => ?_
  refine (blamesNoPrice_readText _).bind fun _ => ?_
  refine (blamesNoPrice_readLabel _).bind fun _ => ?_
  refine (blamesNoPrice_readLabel _).bind fun _ => ?_
  refine (blamesNoPrice_readLabel _).bind fun _ => ?_
  exact (blamesNoPrice_readLabel _).bind fun _ => blamesNoPrice_ok _

/-- A price is blamed for the fault of a row exactly if it is an integer beyond the numbers. -/
theorem ofRow_eq_price_error_iff {row : Json} {cause : NumberError} :
    ofRow row = .error (.price cause) <->
      IntegerPriceOverflows row ∧ cause = .integerTooLarge := by
  cases row with
  | object members =>
      rw [← RowError.price.injEq, ← readPrice_eq_error_iff]
      show ofMembers members = _ <-> readPrice (member? members ["price"]) = _
      cases hread : readPrice (member? members ["price"]) with
      | error error =>
          have hfault : ofMembers members = .error error := by
            unfold ofMembers
            rw [hread]
            rfl
          rw [hfault]
          simp
      | ok price => simp [blamesNoPrice_ofMembers hread cause]
  | null => simp [ofRow, IntegerPriceOverflows, priceMember?]
  | bool value => simp [ofRow, IntegerPriceOverflows, priceMember?]
  | int value => simp [ofRow, IntegerPriceOverflows, priceMember?]
  | float value => simp [ofRow, IntegerPriceOverflows, priceMember?]
  | string text => simp [ofRow, IntegerPriceOverflows, priceMember?]
  | array items => simp [ofRow, IntegerPriceOverflows, priceMember?]

end Product

end CatalogSearch
