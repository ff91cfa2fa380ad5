/-!
# Runs of letters with one distance between cases

In most alphabets the two cases of a letter are a constant distance apart, for every letter of
a run or for every second one.
-/

namespace CatalogSearch.Text

/-- The letters `first`, `first + step`, … up to `last`, and the distance to their images. -/
structure CaseRun where
  first : Nat
  last : Nat
  step : Nat
  distance : Int
  deriving Repr

namespace CaseRun

def covers (run : CaseRun) (code : Nat) : Bool :=
  run.first ≤ code && code ≤ run.last && (code - run.first) % run.step == 0

/-- The image of a character under the first run that covers it, itself when none does. -/
def apply (runs : List CaseRun) (c : Char) : Char :=
  match runs.find? (·.covers c.toNat) with
  | some run => Char.ofNat (c.toNat + run.distance).toNat
  | none => c

end CaseRun

end CatalogSearch.Text
