/-!
# Occurrences of one text in another

Where a text occurs for the first time, and what is left when that occurrence is blanked.
-/

namespace CatalogSearch.Text

def dropLead? : (part text : List Char) -> Option (List Char)
  | [], text => some text
  | _ :: _, [] => none
  | p :: part, c :: text => if p = c then dropLead? part text else none

def startsWith (part text : List Char) : Bool :=
  (dropLead? part text).isSome

def occursIn (part : List Char) : List Char -> Bool
  | [] => part.isEmpty
  | c :: text => startsWith part (c :: text) || occursIn part text

def blankFirst (part : List Char) : List Char -> List Char
  | [] => if part.isEmpty then [' '] else []
  | c :: text =>
    match dropLead? part (c :: text) with
    | some rest => ' ' :: rest
    | none => c :: blankFirst part text

/-! ## Laws -/

theorem dropLead?_append (part rest : List Char) : dropLead? part (part ++ rest) = some rest := by
  induction part with
  | nil => rfl
  | cons p part ih => simp [dropLead?, ih]

theorem dropLead?_eq_some {part text rest : List Char} :
    dropLead? part text = some rest <-> text = part ++ rest := by
  induction part generalizing text with
  | nil => simp [dropLead?, eq_comm]
  | cons p part ih =>
    cases text with
    | nil => simp [dropLead?]
    | cons c text =>
      by_cases h : p = c
      · simp [dropLead?, h, ih]
      · simp [dropLead?, h, Ne.symm h]

end CatalogSearch.Text
