import WebBaseline.Json.Basic
import WebBaseline.Text.Blank
import WebBaseline.Text.Case

/-!
Baseline status: how widely browsers support a feature. The three tiers are ordered, from limited over
newly to widely available. Datasets write them as `false`, `"low"` and `"high"`.
-/

namespace WebBaseline

/-- A Baseline tier. -/
inductive Status where
  | limited
  | newly
  | widely
deriving DecidableEq, Repr

namespace Status

/-- The rank of a tier; a higher one is better supported. -/
def rank : Status → Nat
  | .limited => 0
  | .newly => 1
  | .widely => 2

instance : LE Status := ⟨fun a b => a.rank ≤ b.rank⟩

instance : LT Status := ⟨fun a b => a.rank < b.rank⟩

instance (a b : Status) : Decidable (a ≤ b) := inferInstanceAs (Decidable (a.rank ≤ b.rank))

instance (a b : Status) : Decidable (a < b) := inferInstanceAs (Decidable (a.rank < b.rank))

/-- The tier that a dataset value stands for. Case and blanks around a word do not matter. -/
def ofJson? : Json → Option Status
  | .bool false => some .limited
  | .str s =>
    let word := (Text.strip s).lower
    if word = "high" then some .widely
    else if word = "low" then some .newly
    else none
  | _ => none

/-- The wording of a tier in a message. -/
def label : Status → Text
  | .limited => "Limited availability"
  | .newly => "Newly available"
  | .widely => "Widely available"

/-- The wording of a tier in a summary. -/
def shortLabel : Status → Text
  | .limited => "limited"
  | .newly => "newly"
  | .widely => "widely"

end Status

end WebBaseline
