import CatalogSearch.Proofs.Product.RowPrices
import CatalogSearch.Proofs.Text.Words

/-!
# Products read again

A product of a row is read from its own members once more.  Its texts are tidy
and come back as they are, and so does a price, unless a text gave a number
beyond the finite ones: such a price is lost.
-/

namespace CatalogSearch

open Text

namespace Product

structure IsTrimmed (text : String) : Prop where
  ne_empty : text ≠ ""
  strip_eq : strip text.toList = text.toList

structure HasTrimmedTexts (product : Product) : Prop where
  id : IsTrimmed product.id
  brand : forall text : String, product.brand = some text -> IsTrimmed text
  category : forall text : String, product.category = some text -> IsTrimmed text
  url : forall text : String, product.url = some text -> IsTrimmed text
  image : forall text : String, product.image = some text -> IsTrimmed text

def HasFinitePrice (product : Product) : Prop :=
  forall price : Binary64, product.price = some price -> price.isFinite = true

/-!
## What the readers give
-/

theorem bind_eq_ok {α β : Type} {outcome : Except RowError α} {next : α -> Except RowError β}
    {result : β} :
    outcome >>= next = .ok result <->
      exists value : α, outcome = .ok value ∧ next value = .ok result := by
  cases outcome with
  | error error => simp [bind, Except.bind]
  | ok value => simp [bind, Except.bind]

theorem map_eq_ok {α β : Type} {outcome : Except RowError α} {f : α -> β} {result : β} :
    f <$> outcome = .ok result <-> exists value : α, outcome = .ok value ∧ f value = result := by
  cases outcome with
  | error error => simp [Functor.map, Except.map]
  | ok value => simp [Functor.map, Except.map]

theorem isTrimmed_strip {text : List Char} (h : ¬ (strip text).isEmpty = true) :
    IsTrimmed (String.ofList (strip text)) := by
  constructor
  · intro hempty
    rw [String.ofList_eq_empty_iff.mp hempty] at h
    exact h rfl
  · rw [String.toList_ofList, strip_strip]

theorem isTrimmed_of_nonBlank {text : List Char} {id : String}
    (h : readId.nonBlank text = .ok id) : IsTrimmed id := by
  unfold readId.nonBlank at h
  split at h
  · cases h
  · rename_i hsome
    rw [← Except.ok.inj h]
    exact isTrimmed_strip hsome

theorem isTrimmed_of_readId {value : Option Json} {id : String} (h : readId value = .ok id) :
    IsTrimmed id := by
  unfold readId at h
  split at h
  · cases h
  · exact isTrimmed_of_nonBlank h
  · rcases bind_eq_ok.mp h with ⟨_, _, hid⟩
    exact isTrimmed_of_nonBlank hid
  · cases h

theorem isTrimmed_of_readLabel {value : Option Json} {label : Option String}
    (h : readLabel value = .ok label) :
    forall text : String, label = some text -> IsTrimmed text := by
  intro text hlabel
  unfold readLabel at h
  split at h
  · rw [← Except.ok.inj h] at hlabel
    cases hlabel
  · rw [← Except.ok.inj h] at hlabel
    cases hlabel
  · rcases map_eq_ok.mp h with ⟨shown, _, hshown⟩
    rw [hlabel] at hshown
    unfold labelOf at hshown
    split at hshown
    · cases hshown
    · rename_i hsome
      rw [← Option.some.inj hshown]
      exact isTrimmed_strip hsome

/-!
## What the readers give back
-/

theorem nonBlank_of_isTrimmed {text : String} (h : IsTrimmed text) :
    readId.nonBlank text.toList = .ok text := by
  have hne : ¬ text.toList.isEmpty = true := by simpa using h.ne_empty
  unfold readId.nonBlank
  rw [h.strip_eq, if_neg hne, String.ofList_toList]

theorem readText_string (text : String) :
    readText (some (.string text)) = .ok text := by
  simp [readText, readShown, Json.isShowable, Json.shown, Functor.map, Except.map]

theorem readLabel_ofText? {label : Option String}
    (h : forall text : String, label = some text -> IsTrimmed text) :
    readLabel (some (Document.ofText? label)) = .ok label := by
  cases label with
  | none => rfl
  | some text =>
      have htext := h text rfl
      have hne : ¬ text.toList.isEmpty = true := by simpa using htext.ne_empty
      have hlabel : labelOf text.toList = some text := by
        unfold labelOf
        rw [htext.strip_eq, if_neg hne, String.ofList_toList]
      simp [readLabel, readShown, Document.ofText?, Json.isShowable, Json.shown, hlabel,
        Functor.map, Except.map]

theorem readPrice_ofNumber? (price : Option Binary64) :
    readPrice (some (Document.ofNumber? price)) = .ok (price.filter Binary64.isFinite) := by
  cases price with
  | none => rfl
  | some number =>
      simp [readPrice, PriceLabel.read, Document.ofNumber?, Except.mapError, Option.filter]

/-!
## Products of rows
-/

theorem ofMembers_eq_ok_iff {members : List (String × Json)} {product : Product} :
    ofMembers members = .ok product <->
      readPrice (member? members ["price"]) = .ok product.price ∧
        readId (member? members ["id", "itemId", "externalId"]) = .ok product.id ∧
        readText (member? members ["name", "title"]) = .ok product.name ∧
        readText (member? members ["description"]) = .ok product.description ∧
        readLabel (member? members ["brand"]) = .ok product.brand ∧
        readLabel (member? members ["category"]) = .ok product.category ∧
        readLabel (member? members ["url", "productUrl"]) = .ok product.url ∧
        readLabel (member? members ["image", "imageUrl"]) = .ok product.image := by
  unfold ofMembers
  simp only [bind_eq_ok]
  constructor
  · rintro ⟨price, hprice, id, hid, name, hname, description, hdescription, brand, hbrand, category,
      hcategory, url, hurl, image, himage, hproduct⟩
    rw [← Except.ok.inj hproduct]
    exact ⟨hprice, hid, hname, hdescription, hbrand, hcategory, hurl, himage⟩
  · rintro ⟨hprice, hid, hname, hdescription, hbrand, hcategory, hurl, himage⟩
    exact ⟨_, hprice, _, hid, _, hname, _, hdescription, _, hbrand, _, hcategory, _, hurl, _,
      himage, rfl⟩

theorem ofRow_eq_ok {row : Json} {product : Product} (h : ofRow row = .ok product) :
    exists members, row = .object members ∧ ofMembers members = .ok product := by
  cases row with
  | object members => exact ⟨members, rfl, h⟩
  | _ => cases h

theorem hasTrimmedTexts_of_ofRow {row : Json} {product : Product} (h : ofRow row = .ok product) :
    product.HasTrimmedTexts := by
  rcases ofRow_eq_ok h with ⟨members, rfl, hmembers⟩
  rcases ofMembers_eq_ok_iff.mp hmembers with
    ⟨_, hid, _, _, hbrand, hcategory, hurl, himage⟩
  exact ⟨isTrimmed_of_readId hid, isTrimmed_of_readLabel hbrand, isTrimmed_of_readLabel hcategory,
    isTrimmed_of_readLabel hurl, isTrimmed_of_readLabel himage⟩

/-- Read from its own members a product comes back, but without a price that is not finite. -/
theorem ofRow_toJson {product : Product} (h : product.HasTrimmedTexts) :
    ofRow product.toJson =
      .ok { product with price := product.price.filter Binary64.isFinite } := by
  show ofMembers _ = _
  rw [ofMembers_eq_ok_iff]
  exact ⟨readPrice_ofNumber? _, nonBlank_of_isTrimmed h.id, readText_string _, readText_string _,
    readLabel_ofText? h.brand, readLabel_ofText? h.category, readLabel_ofText? h.url,
    readLabel_ofText? h.image⟩

theorem hasFinitePrice_iff_filter {product : Product} :
    product.HasFinitePrice <-> product.price.filter Binary64.isFinite = product.price := by
  unfold HasFinitePrice
  cases product.price with
  | none => simp
  | some price => simp [Option.filter]

/-!
## Prices that are lost
-/

theorem isFinite_of_binaryOfInteger {value : Int} {number : Binary64}
    (h : Json.binaryOfInteger value = .ok number) : number.isFinite = true := by
  unfold Json.binaryOfInteger at h
  cases hnumber : Binary64.ofInt? value with
  | none =>
      rw [hnumber] at h
      cases h
  | some nearest =>
      rw [hnumber] at h
      rw [← Except.ok.inj h]
      unfold Binary64.ofInt? at hnumber
      split at hnumber
      · rename_i hfinite
        rw [← Option.some.inj hnumber]
        exact hfinite
      · cases hnumber

theorem isFinite_of_readPrice {value : Json} {number : Binary64}
    (h : readPrice (some value) = .ok (some number))
    (hvalue : forall text : String, value ≠ .string text) : number.isFinite = true := by
  cases value with
  | int value =>
      change ((Json.binaryOfInteger value).map some).mapError RowError.price = _ at h
      cases hread : Json.binaryOfInteger value with
      | error cause =>
          rw [hread] at h
          cases h
      | ok nearest =>
          rw [hread] at h
          rw [← Option.some.inj (Except.ok.inj h)]
          exact isFinite_of_binaryOfInteger hread
  | float value =>
      have hprice : (if value.isFinite then some value else none) = some number :=
        Except.ok.inj h
      split at hprice
      · rename_i hfinite
        rw [← Option.some.inj hprice]
        exact hfinite
      · cases hprice
  | string text => exact absurd rfl (hvalue text)
  | null => cases h
  | bool value => cases h
  | array items => cases h
  | object members => cases h

theorem textPriceOverflows_iff {row : Json} {price : Option Binary64}
    (h : readPrice (priceMember? row) = .ok price) :
    TextPriceOverflows row <->
      exists number : Binary64, price = some number ∧ ¬ number.isFinite = true := by
  constructor
  · rintro ⟨text, whole, fraction, hmember, hwrites, hoverflow⟩
    refine ⟨PriceLabel.writtenNumber whole fraction, ?_, ?_⟩
    · rw [hmember] at h
      rw [← Except.ok.inj h]
      exact PriceLabel.readText_eq_some_iff.mpr ⟨whole, fraction, hwrites, rfl⟩
    · rw [PriceLabel.isFinite_writtenNumber_iff]
      exact Nat.not_lt.mpr hoverflow
  · rintro ⟨number, rfl, hinfinite⟩
    cases hmember : priceMember? row with
    | none =>
        rw [hmember] at h
        cases h
    | some value =>
        rw [hmember] at h
        by_cases htext : exists text : String, value = .string text
        · rcases htext with ⟨text, rfl⟩
          rcases PriceLabel.readText_eq_some_iff.mp (Except.ok.inj h) with
            ⟨whole, fraction, hwrites, rfl⟩
          rw [PriceLabel.isFinite_writtenNumber_iff] at hinfinite
          exact ⟨text, whole, fraction, hmember, hwrites, Nat.not_lt.mp hinfinite⟩
        · exact absurd (isFinite_of_readPrice h fun text heq => htext ⟨text, heq⟩) hinfinite

theorem hasFinitePrice_iff {row : Json} {product : Product} (h : ofRow row = .ok product) :
    product.HasFinitePrice <-> ¬ TextPriceOverflows row := by
  rcases ofRow_eq_ok h with ⟨members, rfl, hmembers⟩
  rw [@textPriceOverflows_iff (.object members) _ (ofMembers_eq_ok_iff.mp hmembers).1]
  unfold HasFinitePrice
  simp

/-- The product of a row is tidy and comes back when it is read again, but without a price that a
text gave beyond the finite numbers; and it comes back whole exactly if there is no such price. -/
theorem ofRow_product_iff {row : Json} {product : Product} (h : ofRow row = .ok product) :
    product.HasTrimmedTexts ∧
      ofRow product.toJson =
        .ok { product with price := product.price.filter Binary64.isFinite } ∧
      (product.HasFinitePrice ∧ ofRow product.toJson = .ok product <->
        ¬ TextPriceOverflows row) := by
  have htexts := hasTrimmedTexts_of_ofRow h
  have hagain := ofRow_toJson htexts
  refine ⟨htexts, hagain, ?_⟩
  rw [← hasFinitePrice_iff h]
  constructor
  · exact fun hfixed => hfixed.1
  · intro hfinite
    refine ⟨hfinite, ?_⟩
    rw [hagain, hasFinitePrice_iff_filter.mp hfinite]

def lampRow : Json :=
  .object [("itemId", .int 7), ("title", .null), ("price", .string " $1,299.50 "),
    ("brand", .string " Lux\t"), ("category", .array [.string "a", .bool true]),
    ("productUrl", .string " ")]

def lamp : Product :=
  { id := "7", price := some (.ofDecimal false 129950 (-2)), brand := some "Lux",
    category := some "['a', True]" }

theorem ofRow_product_iff_lamp :
    ofRow lampRow = .ok lamp ∧
      lamp.HasTrimmedTexts ∧
      ofRow lamp.toJson = .ok { lamp with price := lamp.price.filter Binary64.isFinite } ∧
      (lamp.HasFinitePrice ∧ ofRow lamp.toJson = .ok lamp <-> ¬ TextPriceOverflows lampRow) := by
  have hrow : ofRow lampRow = .ok lamp := by rfl
  exact ⟨hrow, ofRow_product_iff hrow⟩

def overpricedRow : Json :=
  .object [("id", .string "lamp"), ("price", .string (String.ofList (List.replicate 309 '9')))]

def overpriced : Product :=
  { id := "lamp", price := some .infinity }

theorem not_ofRow_product_overpriced :
    ¬ forall product : Product, ofRow overpricedRow = .ok product ->
      product.HasTrimmedTexts ∧ product.HasFinitePrice ∧ ofRow product.toJson = .ok product := by
  intro hclaim
  have hprice : PriceLabel.readText (List.replicate 309 '9') = some .infinity := by
    decide +kernel
  have hrow : ofRow overpricedRow = .ok overpriced := by
    refine ofMembers_eq_ok_iff.mpr ⟨?_, by decide⟩
    -- A text of this length is not evaluated as one, only the list of its characters.
    show Except.ok (PriceLabel.readText (String.ofList _).toList) = _
    rw [String.toList_ofList, hprice]
    rfl
  have hfinite := (hclaim overpriced hrow).2.1 .infinity rfl
  cases hfinite

end Product

end CatalogSearch
