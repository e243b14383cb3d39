import WebBaseline.Text.Basic

/-!
Lines and positions. A line ends at a line feed; a carriage return directly before it belongs to the
break. An offset into a text becomes a line number and a column, both counted from zero.
-/

namespace WebBaseline

/-- A place in a text: line and column, counted from zero. -/
structure Position where
  line : Nat
  column : Nat
deriving DecidableEq, Repr

namespace Text

def dropReturn (line : Text) : Text :=
  match line.getLast? with
  | some '\r' => line.dropLast
  | _ => line

/-- Every piece but the last has lost its line feed, and loses the carriage return before it. -/
def dropReturns : List Text → List Text
  | [] => []
  | [line] => [line]
  | line :: rest => dropReturn line :: dropReturns rest

def lines (s : Text) : List Text :=
  dropReturns (splitOn '\n' s)

/-- The position reached from `p` by reading `s`. -/
def advance (p : Position) : Text → Position
  | [] => p
  | c :: s => advance (if c = '\n' then ⟨p.line + 1, 0⟩ else ⟨p.line, p.column + 1⟩) s

/-- The position of the offset `o` in `s`; an offset outside the text counts as its nearer end. -/
def position (s : Text) (o : Int) : Position :=
  advance ⟨0, 0⟩ (s.take o.toNat)

/-- Spaces in place of `s`; line breaks stay. -/
def blankOut (s : Text) : Text :=
  s.map fun c => if c = '\r' || c = '\n' then c else ' '

/-- Every line break written as one line feed: a carriage return alone or before a line feed is one. -/
def unifyBreaks : Text → Text
  | [] => []
  | '\r' :: '\n' :: s => '\n' :: unifyBreaks s
  | '\r' :: s => '\n' :: unifyBreaks s
  | c :: s => c :: unifyBreaks s

end Text

end WebBaseline
