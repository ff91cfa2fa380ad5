import CatalogSearch.Proofs.Query.Hits
import CatalogSearch.Proofs.Text.CutsInPlace

/-!
# Spans of matches

A match stands for a span of the text, and for the pieces that show it.
-/

namespace CatalogSearch

namespace Pattern

variable {α : Type}

def Match.span (found : Match α) : Span :=
  ⟨found.before.length, found.text⟩

theorem FoundAt.segment
    {pattern : Pattern α} {pieces : List Piece} {found : Match α}
    (h : FoundAt pattern (Pieces.chars pieces) found) :
    Pieces.chars (pieces.take found.span.start) = found.before ∧
      Pieces.chars (Pieces.segment found.span pieces) = found.span.text ∧
      Pieces.chars (pieces.drop (found.span.start + found.span.text.length)) = found.after :=
  Pieces.segment_of_chars h.split

end Pattern

end CatalogSearch
