import WebBaseline.Script.Rule

/-!
Orders of strengths. Where two rules compete for a token, the first order that ranks them both decides
which of them binds more strongly. An order ranks rules by their strengths or by their parts, the
strongest first.
-/

namespace WebBaseline.Script

/-- A place in an order: a strength, or a part whatever its strength. -/
inductive Rank where
  | strength (s : Strength)
  | part (p : Part)
deriving DecidableEq, Repr

instance : Coe Strength Rank := ⟨Rank.strength⟩

instance : Coe Part Rank := ⟨Rank.part⟩

/-- What competes for a token: rules of some parts, with a strength. -/
structure Contender where
  strength : Strength
  parts : List Part
deriving Repr

def Rank.holds (c : Contender) : Rank → Bool
  | strength s => s = c.strength
  | part p => c.parts.contains p

/-- Compares two contenders by one order: the one that is ranked first is greater. `seen` tells which of
them were ranked so far. -/
def compareIn (a b : Contender) (seen : Bool × Bool) : List Rank → Ordering
  | [] => .eq
  | r :: rest =>
    if r.holds a then if seen.2 then .lt else compareIn a b (true, seen.2) rest
    else if r.holds b then if seen.1 then .gt else compareIn a b (seen.1, true) rest
    else compareIn a b seen rest

/-- Compares two contenders by the first order that ranks both. -/
def compareByOrders (a b : Contender) : List (List Rank) → Ordering
  | [] => .eq
  | order :: rest =>
    match compareIn a b (false, false) order with
    | .eq => compareByOrders a b rest
    | decided => decided

/-- Compares two contenders: by their levels if they have them, or else by the orders. -/
def compareContenders (orders : List (List Rank)) (a b : Contender) : Ordering :=
  match a.strength, b.strength with
  | .level m, .level n => if m = 0 && n = 0 then compareByOrders a b orders else compare m n
  | _, _ => compareByOrders a b orders

end WebBaseline.Script
