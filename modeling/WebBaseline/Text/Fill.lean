import WebBaseline.Text.Blank

/-!
Filling lines with running text. A line may end at blanks, and behind a hyphen between two pairs of
letters. A stretch that fits on no line has one of its own.
-/

namespace WebBaseline.Text

/-- Whether a text starts with two letters, or with two letters around a hyphen. -/
def startsLettered : Text → Bool
  | a :: '-' :: b :: _ => isLetter a && isLetter b
  | a :: b :: _ => isLetter a && isLetter b
  | _ => false

/-- The stretches of a text between which a line may end; blanks are stretches of their own. `lettered`
says whether two letters stand before the text, and `letter` whether one does. -/
def stretchesFrom (lettered letter : Bool) : Text → List Text
  | [] => []
  | c :: s =>
    match s, stretchesFrom (letter && isLetter c) (isLetter c) s with
    | d :: _, stretch :: rest =>
      if isBlank c != isBlank d || (c = '-' && lettered && startsLettered s) then
        [c] :: stretch :: rest
      else (c :: stretch) :: rest
    | _, _ => [[c]]

def stretches (s : Text) : List Text :=
  stretchesFrom false false s

/-- Lines being filled: those that are full, and the one that is not. -/
structure Filling where
  done : List Text := []
  line : Text := []

namespace Filling

/-- Ends the line, without the blanks at its end. -/
def endLine (f : Filling) : Filling :=
  let line := stripRight f.line
  { done := if line.isEmpty then f.done else f.done ++ [line] }

/-- Adds a stretch. Blanks at the start of a line behind the first are left out. -/
def add (width : Nat) (f : Filling) (s : Text) : Filling :=
  if f.line.isEmpty && !f.done.isEmpty && s.all isBlank then f
  else if f.line.length + s.length ≤ width then { f with line := f.line ++ s }
  else if s.all isBlank then f.endLine
  else { f.endLine with line := s }

end Filling

def fill (width : Nat) (s : Text) : List Text :=
  ((stretches s).foldl (Filling.add width) {}).endLine.done

end WebBaseline.Text
