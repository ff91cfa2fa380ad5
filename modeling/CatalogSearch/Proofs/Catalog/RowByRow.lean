import CatalogSearch.Catalog.Rows
import CatalogSearch.Proofs.Product.RowPrices
import Mathlib.Data.List.Forall2

/-!
# Catalogs row by row

Every row is read on its own: the catalog holds the products of the rows that
give one, in their order, and every other row is reported under its position.
The one exception is a price that is an integer beyond the numbers, which
leaves no catalog at all.
-/

namespace CatalogSearch

open Product

def Warning.NamesRow (position : Nat) (warning : Warning) : Prop :=
  exists reason : String,
    warning.message = "Skipping catalog row " ++ toString position ++ ": " ++ reason

theorem Warning.rowKind_namesRow (position : Nat) (kind : String) :
    (Warning.rowKind position kind).NamesRow position := by
  refine ⟨"expected an object, got " ++ kind, ?_⟩
  have hlead : ": expected an object, got " = ": " ++ "expected an object, got " := by decide
  show "Skipping catalog row " ++ toString position ++ ": expected an object, got " ++ kind = _
  rw [hlead]
  simp only [String.append_assoc]

theorem Warning.rowFault_namesRow (position : Nat) (error : RowError) :
    (Warning.rowFault position error).NamesRow position :=
  ⟨error.message, rfl⟩

namespace Catalog

def validProducts (rows : List Json) : Catalog :=
  rows.filterMap fun row => (ofRow row).toOption

def refusedPositions (position : Nat) (rows : List Json) : List Nat :=
  ((rows.zipIdx position).filter fun entry => (ofRow entry.1).toOption.isNone).map (·.2)

/-- A catalog that accounts for every row it was built from. -/
structure Accounts (rows : List Json) (built : Reported (Except NumberError Catalog)) : Prop where
  products : built.value = .ok (validProducts rows)
  warnings : List.Forall₂ Warning.NamesRow (refusedPositions 0 rows) built.warnings
  count : (validProducts rows).length + built.warnings.length = rows.length
  undisturbed : forall front row back, rows = front ++ row :: back -> (ofRow row).toOption = none ->
    built.value = .ok (validProducts (front ++ back))

/-!
## Rows one by one
-/

section Rows

variable {row : Json} {rest : List Json} {product : Product} {error : RowError}

theorem validProducts_cons_product (h : ofRow row = .ok product) :
    validProducts (row :: rest) = product :: validProducts rest := by
  simp [validProducts, h, Except.toOption]

theorem validProducts_cons_refused (h : ofRow row = .error error) :
    validProducts (row :: rest) = validProducts rest := by
  simp [validProducts, h, Except.toOption]

theorem refusedPositions_cons_product (h : ofRow row = .ok product) (position : Nat) :
    refusedPositions position (row :: rest) = refusedPositions (position + 1) rest := by
  simp [refusedPositions, h, Except.toOption]

theorem refusedPositions_cons_refused (h : ofRow row = .error error) (position : Nat) :
    refusedPositions position (row :: rest) = position :: refusedPositions (position + 1) rest := by
  simp [refusedPositions, h, Except.toOption]

theorem readRow_of_product (h : ofRow row = .ok product) (position : Nat) :
    readRow position row = .product product := by
  cases row with
  | object members =>
      have hproduct : ofMembers members = .ok product := h
      simp only [readRow, hproduct]
  | _ => cases h

theorem readRow_of_overflow (h : IntegerPriceOverflows row) (position : Nat) :
    readRow position row = .failed .integerTooLarge := by
  have hfault := ofRow_eq_price_error_iff.mpr ⟨h, rfl⟩
  cases row with
  | object members =>
      have hprice : ofMembers members = .error (.price .integerTooLarge) := hfault
      simp only [readRow, hprice]
  | _ => cases hfault

theorem readRow_of_refused (h : ofRow row = .error error)
    (hoverflow : ¬ IntegerPriceOverflows row) (position : Nat) :
    exists warning, readRow position row = .skipped warning ∧ warning.NamesRow position := by
  cases row with
  | object members =>
      have hfault : ofMembers members = .error error := h
      have hprice : forall cause, error ≠ .price cause := by
        intro cause heq
        rw [heq] at h
        exact hoverflow (ofRow_eq_price_error_iff.mp h).1
      refine ⟨.rowFault position error, ?_, Warning.rowFault_namesRow position error⟩
      cases error with
      | price cause => exact absurd rfl (hprice cause)
      | _ => simp only [readRow, hfault]
  | _ => exact ⟨_, rfl, Warning.rowKind_namesRow position _⟩

end Rows

/-!
## Whole catalogs

The induction follows the rows; the position is general, since it grows from
row to row.
-/

theorem ofRowsFrom_of_rows {rows : List Json}
    (h : forall row, row ∈ rows -> ¬ IntegerPriceOverflows row) (position : Nat) :
    (ofRowsFrom position rows).value = .ok (validProducts rows) ∧
      List.Forall₂ Warning.NamesRow (refusedPositions position rows)
        (ofRowsFrom position rows).warnings := by
  induction rows generalizing position with
  | nil => exact ⟨rfl, List.Forall₂.nil⟩
  | cons row rest ih =>
      rcases ih (fun other hmem => h other (List.mem_cons_of_mem _ hmem)) (position + 1) with
        ⟨hvalue, hwarnings⟩
      cases hrow : ofRow row with
      | ok product =>
          rw [validProducts_cons_product hrow, refusedPositions_cons_product hrow, ofRowsFrom,
            readRow_of_product hrow]
          exact ⟨congrArg (Except.map (product :: ·)) hvalue, hwarnings⟩
      | error error =>
          rcases readRow_of_refused hrow (h row List.mem_cons_self) position with
            ⟨warning, hread, hnames⟩
          rw [validProducts_cons_refused hrow, refusedPositions_cons_refused hrow, ofRowsFrom,
            hread]
          exact ⟨hvalue, List.Forall₂.cons hnames hwarnings⟩

theorem ofRowsFrom_of_overflow {rows : List Json}
    (h : exists row, row ∈ rows ∧ IntegerPriceOverflows row) (position : Nat) :
    (ofRowsFrom position rows).value = .error .integerTooLarge := by
  induction rows generalizing position with
  | nil =>
      rcases h with ⟨row, hmem, _⟩
      cases hmem
  | cons row rest ih =>
      by_cases hrow : IntegerPriceOverflows row
      · rw [ofRowsFrom, readRow_of_overflow hrow]
        rfl
      · have hrest : exists other, other ∈ rest ∧ IntegerPriceOverflows other := by
          rcases h with ⟨other, hmem, hoverflow⟩
          rcases List.mem_cons.mp hmem with rfl | hlater
          · exact absurd hoverflow hrow
          · exact ⟨other, hlater, hoverflow⟩
        have hvalue := ih hrest (position + 1)
        cases hread : ofRow row with
        | ok product =>
            rw [ofRowsFrom, readRow_of_product hread]
            exact congrArg (Except.map (product :: ·)) hvalue
        | error error =>
            rcases readRow_of_refused hread hrow position with ⟨warning, hskip, _⟩
            rw [ofRowsFrom, hskip]
            exact hvalue

/-- Every row gives a product or has its position among the refused. -/
theorem validProducts_add_refused (position : Nat) (rows : List Json) :
    (validProducts rows).length + (refusedPositions position rows).length = rows.length := by
  induction rows generalizing position with
  | nil => rfl
  | cons row rest ih =>
      cases hrow : ofRow row with
      | ok product =>
          rw [validProducts_cons_product hrow, refusedPositions_cons_product hrow,
            List.length_cons, List.length_cons, Nat.succ_add, ih]
      | error error =>
          rw [validProducts_cons_refused hrow, refusedPositions_cons_refused hrow,
            List.length_cons, List.length_cons, ← Nat.add_assoc, ih]

theorem validProducts_refused {front back : List Json} {row : Json}
    (h : (ofRow row).toOption = none) :
    validProducts (front ++ row :: back) = validProducts (front ++ back) := by
  simp [validProducts, h]

theorem accounts_of_rows {rows : List Json}
    (h : forall row, row ∈ rows -> ¬ IntegerPriceOverflows row) :
    Accounts rows (ofRows rows) := by
  rcases ofRowsFrom_of_rows h 0 with ⟨hvalue, hwarnings⟩
  constructor
  · exact hvalue
  · exact hwarnings
  · rw [← validProducts_add_refused 0 rows, hwarnings.length_eq]
    rfl
  · intro front row back hsplit hrefused
    rw [← validProducts_refused hrefused, ← hsplit]
    exact hvalue

theorem eq_validProducts_of_ofRows {rows : List Json} {catalog : Catalog}
    (h : (ofRows rows).value = .ok catalog) : catalog = validProducts rows := by
  have hnone : forall row, row ∈ rows -> ¬ IntegerPriceOverflows row := by
    intro row hmem hoverflow
    rw [ofRows, ofRowsFrom_of_overflow ⟨row, hmem, hoverflow⟩] at h
    cases h
  have hbuilt := (accounts_of_rows hnone).products
  rw [h] at hbuilt
  exact Except.ok.inj hbuilt

theorem exists_row_of_mem_validProducts {rows : List Json} {product : Product}
    (h : product ∈ validProducts rows) :
    exists row : Json, row ∈ rows ∧ ofRow row = .ok product := by
  rcases List.mem_filterMap.mp h with ⟨row, hmem, hrow⟩
  refine ⟨row, hmem, ?_⟩
  cases hresult : ofRow row with
  | error error =>
      rw [hresult] at hrow
      cases hrow
  | ok found =>
      rw [hresult] at hrow
      exact congrArg Except.ok (Option.some.inj hrow)

/-- A catalog accounts for its rows exactly if no price is an integer beyond the numbers, and is
not built otherwise. -/
theorem ofRows_accounts_iff (rows : List Json) :
    (Accounts rows (ofRows rows) <-> forall row, row ∈ rows -> ¬ IntegerPriceOverflows row) ∧
      ((ofRows rows).value = .error .integerTooLarge <->
        exists row, row ∈ rows ∧ IntegerPriceOverflows row) := by
  have hfails : (exists row, row ∈ rows ∧ IntegerPriceOverflows row) ->
      (ofRows rows).value = .error .integerTooLarge := fun h => ofRowsFrom_of_overflow h 0
  constructor
  · constructor
    · intro haccounts row hmem hoverflow
      have hvalue := haccounts.products
      rw [hfails ⟨row, hmem, hoverflow⟩] at hvalue
      cases hvalue
    · exact accounts_of_rows
  · constructor
    · intro hvalue
      by_contra hnone
      have haccounts : Accounts rows (ofRows rows) :=
        accounts_of_rows fun row hmem hoverflow => hnone ⟨row, hmem, hoverflow⟩
      rw [haccounts.products] at hvalue
      cases hvalue
    · exact hfails

def overpricedRows : List Json :=
  [.object [("id", .string "lamp"), ("price", .int (10 ^ 309))],
    .object [("id", .string "shelf"), ("price", .int 5)]]

theorem not_accounts_overpricedRows : ¬ Accounts overpricedRows (ofRows overpricedRows) := by
  intro haccounts
  have hoverflow : IntegerPriceOverflows (overpricedRows.head (by decide)) :=
    ⟨10 ^ 309, rfl, by decide +kernel⟩
  have hvalue := haccounts.products
  rw [ofRows, ofRowsFrom_of_overflow ⟨_, List.head_mem _, hoverflow⟩] at hvalue
  cases hvalue

end Catalog

end CatalogSearch
