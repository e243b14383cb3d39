import WebBaseline.Text.Basic

/-!
How alike two texts are. The longest common stretch is matched first, and then what stands before it and
behind it on both sides. The likeness is the part of both texts that is matched.
-/

namespace WebBaseline.Text

def commonLead : Text → Text → Nat
  | a :: s, b :: t => if a = b then commonLead s t + 1 else 0
  | _, _ => 0

/-- A stretch that two texts have in common: where it starts in each, and its length. -/
structure Stretch where
  left : Nat
  right : Nat
  length : Nat

def longest : List Stretch → Option Stretch
  | [] => none
  | x :: rest =>
    match longest rest with
    | none => some x
    | some y => if x.length < y.length then some y else some x

/-- The longest common stretch; of several the first one in `s`, and then in `t`. -/
def longestStretch (s t : Text) : Option Stretch :=
  longest ((List.range s.length).flatMap fun i =>
    (List.range t.length).map fun j => ⟨i, j, commonLead (s.drop i) (t.drop j)⟩)

/-- The number of characters that are matched, with `fuel` for the depth of the division. -/
def matchedWithin : (fuel : Nat) → Text → Text → Nat
  | 0, _, _ => 0
  | fuel + 1, s, t =>
    match longestStretch s t with
    | none => 0
    | some x =>
      if x.length = 0 then 0
      else x.length + matchedWithin fuel (s.take x.left) (t.take x.right) +
        matchedWithin fuel (s.drop (x.left + x.length)) (t.drop (x.right + x.length))

def matched (s t : Text) : Nat :=
  matchedWithin (s.length + 1) s t

def isAlike (s t : Text) : Bool :=
  3 * (s.length + t.length) ≤ 10 * matched s t

/-- Whether `s` is no less like `word` than `t` is. -/
def isNearer (word s t : Text) : Bool :=
  let (left, right) := (matched s word * (t.length + word.length), matched t word * (s.length + word.length))
  right < left || (right = left && !(s < t))

/-- The names that are like `word`: at most three, the nearest ones. -/
def alike (word : Text) (names : List Text) : List Text :=
  ((names.filter fun s => isAlike s word).mergeSort (isNearer word)).take 3

end WebBaseline.Text
