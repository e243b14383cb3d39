import WebBaseline.Text.Basic

/-!
Searching a text for constructs. A recogniser looks at the front of a text and says how many
characters a construct there takes, and what it is. `Matches.all` lists the constructs of a text from
left to right: each one starts at the first place behind the one before where the recogniser accepts.
-/

namespace WebBaseline.Text

/-- Reads a construct at the front of a text: its length, which is positive, and its value. -/
abbrev Recogniser (α : Type) := Text → Option (Nat × α)

/-- A construct in a text: where it starts, its length and its value. -/
structure Match (α : Type) where
  start : Nat
  length : Nat
  value : α

namespace Match

variable {α : Type}

def stop (m : Match α) : Nat :=
  m.start + m.length

end Match

namespace Matches

variable {α : Type}

/-- The constructs of a text that stands at `offset`; its first `skip` characters belong to the
construct before. -/
def allFrom (r : Recogniser α) (offset skip : Nat) : Text → List (Match α)
  | [] => []
  | c :: s =>
    if 0 < skip then allFrom r (offset + 1) (skip - 1) s
    else match r (c :: s) with
      | none => allFrom r (offset + 1) 0 s
      | some (n, value) => ⟨offset, n, value⟩ :: allFrom r (offset + 1) (n - 1) s

/-- The constructs of a text, from left to right. -/
def all (r : Recogniser α) (s : Text) : List (Match α) :=
  allFrom r 0 0 s

end Matches

end WebBaseline.Text
