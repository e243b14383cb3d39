import WebBaseline.Text.Basic

/-!
Sets of code points given by ranges. The ranges of a table stand in increasing order, so a search
stops at the first range that lies above the code point.
-/

namespace WebBaseline.Text.Ranges

/-- Whether `n` lies in one of the increasing ranges. -/
def contains : List (Nat × Nat) → Nat → Bool
  | [], _ => false
  | (lo, hi) :: rest, n => if n < lo then false else n ≤ hi || contains rest n

/-- Whether `n` is `first`, `first + step`, … or `last` of one of the rows. -/
def containsStep (rows : List (Nat × Nat × Nat)) (n : Nat) : Bool :=
  rows.any fun (first, last, step) => first ≤ n && n ≤ last && (n - first) % step == 0

end WebBaseline.Text.Ranges
