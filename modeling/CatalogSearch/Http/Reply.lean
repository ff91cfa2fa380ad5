import CatalogSearch.Http.Parameter
import CatalogSearch.Product.Row

/-!
# Replies

A reply has a status and a body.  The response to a search is checked once more before it is
sent: its products are read again as rows, and numbers that are not finite become null.
-/

namespace CatalogSearch

namespace Http

structure Reply where
  status : Nat
  body : Json
  deriving Repr

namespace Reply

def served (body : Json) : Reply := ⟨200, body⟩

def refused (status : Nat) (reason : String) : Reply :=
  ⟨status, .object [("detail", .string reason)]⟩

def notFound : Reply := refused 404 "Not Found"

/-- The reply to a request by another method than that of its endpoint.  A request for the head of a
reply gets no body. -/
def methodNotAllowed (method : String) : Reply :=
  if method == "HEAD" then ⟨405, .string ""⟩ else refused 405 "Method Not Allowed"

def internalError : Reply := ⟨500, .string "Internal Server Error"⟩

def invalidParameters (errors : List ParameterError) : Reply :=
  ⟨422, .array (errors.map fun error =>
    .array [.string error.fault.code, .array [.string "query", .string error.name]])⟩

/-! ## Checked responses -/

mutual

def finite : Json -> Json
  | .float value => if value.isFinite then .float value else .null
  | .array items => .array (finiteItems items)
  | .object members => .object (finiteMembers members)
  | value => value

def finiteItems : List Json -> List Json
  | [] => []
  | item :: rest => finite item :: finiteItems rest

def finiteMembers : List (String × Json) -> List (String × Json)
  | [] => []
  | (name, value) :: rest => (name, finite value) :: finiteMembers rest

end

def rereadItems : List Json -> Except RowError (List Json)
  | [] => .ok []
  | item :: rest => do
    let product ← Product.ofRow item
    let others ← rereadItems rest
    .ok (product.toJson :: others)

def rereadMembers : List (String × Json) -> Except RowError (List (String × Json))
  | [] => .ok []
  | ("items", .array items) :: rest => do
    let items ← rereadItems items
    let others ← rereadMembers rest
    .ok (("items", .array items) :: others)
  | member :: rest => do
    let others ← rereadMembers rest
    .ok (member :: others)

def ofResponse : Json -> Reply
  | .object members =>
    match rereadMembers members with
    | .ok members => served (finite (.object members))
    | .error _ => internalError
  | _ => internalError

end Reply

end Http

end CatalogSearch
