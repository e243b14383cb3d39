import WebBaseline.Text.Blank
import WebBaseline.Text.Cells

/-!
Word wrap. A text is divided at its line breaks, and each line is divided at its blanks so that the pieces
fit into a number of cells. A word that fits on no line is folded. Blanks at the end of a piece may reach
over the edge; they are cut there.
-/

namespace WebBaseline.Text

def wordsFrom : Text → List Text
  | [] => []
  | c :: s =>
    match wordsFrom s with
    | (d :: word) :: rest =>
      if isBlank c && !isBlank d then [c] :: (d :: word) :: rest else (c :: d :: word) :: rest
    | rest => [c] :: rest

/-- The words of a text; blanks at the front belong to the first one. A text of blanks has none. -/
def blankedWords (s : Text) : List Text :=
  match wordsFrom (stripLeft s) with
  | [] => []
  | word :: rest => (s.takeWhile isBlank ++ word) :: rest

/-- A wrap in progress: the lines that are full, the line being filled, the cells taken on it, and whether
anything was placed before. -/
structure Wrapping where
  done : List Text := []
  line : Text := []
  column : Nat := 0
  started : Bool := false

namespace Wrapping

/-- Ends the line, if anything was placed. -/
def endLine (w : Wrapping) : Wrapping :=
  if w.started then { w with done := w.done ++ [w.line], line := [], column := 0 } else w

def place (w : Wrapping) (s : Text) : Wrapping :=
  { w with line := w.line ++ s, column := w.column + cells s, started := w.started || !s.isEmpty }

/-- Places the pieces of a folded word on lines of their own; `s` is the word from the first piece on. -/
def placeFolded (w : Wrapping) (s : Text) : List Text → Wrapping
  | [] => w
  | [piece] =>
    let w := w.endLine
    { w with line := w.line ++ s, column := cells piece, started := true }
  | piece :: rest => (w.endLine.place piece).placeFolded (s.drop piece.length) rest

def add (width : Nat) (w : Wrapping) (word : Text) : Wrapping :=
  let needed := cells (stripRight word)
  if w.column + needed ≤ width then w.place word
  else if width < needed then w.placeFolded word (foldCells width word)
  else w.endLine.place word

end Wrapping

/-- A line without the blanks at its end that lie behind `width` characters. -/
def trimEnd (width : Nat) (s : Text) : Text :=
  let excess := s.length - width
  let blanks := s.length - (stripRight s).length
  s.take (s.length - min excess blanks)

def wrapLine (width : Nat) (s : Text) : List Text :=
  match blankedWords s with
  | [] => [s]
  | words =>
    let w := words.foldl (Wrapping.add width) {}
    w.done ++ [w.line]

/-- The lines of a text, none of them wider than `width` cells. -/
def wrap (width : Nat) (s : Text) : List Text :=
  (splitOn '\n' s).flatMap fun line =>
    (wrapLine width (expandTabs line)).map fun piece => cutCells width (trimEnd width piece)

end WebBaseline.Text
