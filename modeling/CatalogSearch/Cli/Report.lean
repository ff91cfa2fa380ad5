import CatalogSearch.Json.Shown

/-!
# Printed responses

A response is printed as one line about the search and one line for each product of the page.
What a response lacks is printed as such.
-/

namespace CatalogSearch

open Text

inductive ReportError
  /-- A number is none. -/
  | number (cause : NumberError)
  /-- A part that should have members has none. -/
  | noMembers
  /-- A part that should be a list is none. -/
  | notAList
  deriving DecidableEq, Repr

namespace ReportError

def message : ReportError -> String
  | number cause => cause.message
  | noMembers => "A part of the response has no members"
  | notAList => "The products of the response are no list"

end ReportError

namespace Report

def memberText (name : String) (part : Json) : List Char :=
  ((part.member? name).getD .null).shown

/-- The time that a search took, green below two hundred milliseconds and red from there on. -/
def tookText (took : Binary64) : List Char :=
  let colour := if took.lt (.ofNat 200) then "\x1b[92m" else "\x1b[91m"
  colour.toList ++ took.fixedText 1 ++ " ms\x1b[0m".toList

/-- A price with two decimals, a hyphen for what is no number. -/
def priceText : Json -> Except ReportError (List Char)
  | .float value => .ok ('$' :: value.fixedText 2)
  | .int value =>
    match Json.binaryOfInteger value with
    | .ok number => .ok ('$' :: number.fixedText 2)
    | .error cause => .error (.number cause)
  | .bool value => .ok ('$' :: (Binary64.ofNat (if value then 1 else 0)).fixedText 2)
  | _ => .ok ['-']

def productLine (place : Nat) : Json -> Except ReportError (List Char)
  | .object members => do
    let product : Json := .object members
    let price ← priceText ((product.member? "price").getD .null)
    .ok (' ' :: ' ' :: padZeros 2 (decimalDigits place) ++ ". ".toList ++
      memberText "id" product ++ " | ".toList ++ price ++ " | ".toList ++
      memberText "name" product ++ ['\n'])
  | _ => .error .noMembers

def productLines (place : Nat) : List Json -> Except ReportError (List Char)
  | [] => .ok []
  | product :: rest => do
    let line ← productLine place product
    let others ← productLines (place + 1) rest
    .ok (line ++ others)

def pageItems : Json -> Except ReportError (List Json)
  | .array items => .ok items
  | .object members => if members.isEmpty then .ok [] else .error .noMembers
  | .string text => if text == "" then .ok [] else .error .noMembers
  | _ => .error .notAList

def formattedText : Json -> Except ReportError (List Char)
  | .object members => .ok (Json.shownInside ((members.lookup "formatted").getD .null))
  | _ => .error .noMembers

def headLine (query : String) (response : Json) (took : Binary64) (formatted : List Char) :
    List Char :=
  "Query: ".toList ++ quoted query.toList ++ " | parsed: ".toList ++ formatted ++
    " | results: ".toList ++ ((response.member? "totalResults").getD (.int 0)).shown ++
    " | page ".toList ++ memberText "currentPage" response ++
    " | more: ".toList ++ memberText "hasMore" response ++
    " | took: ".toList ++ tookText took ++ ['\n']

def ofResponse (query : String) : Json -> Except ReportError (List Char)
  | .object members => do
    let response : Json := .object members
    let took ← ((response.member? "took_ms").getD (.int 0)).toBinary.mapError .number
    let formatted ← formattedText ((response.member? "parsed").getD (.object []))
    let products ← pageItems ((response.member? "items").getD (.array []))
    let lines ← productLines 1 products
    .ok (headLine query response took formatted ++ lines)
  | _ => .error .noMembers

end Report

end CatalogSearch
