import WebBaseline.Index.Basic
import WebBaseline.Text.Wrap

/-!
Panels: paragraphs of text in a box with rounded corners, with a title in the upper border.
-/

namespace WebBaseline

structure Panel where
  title : Text
  paragraphs : List Text
deriving DecidableEq, Repr

namespace Panel

def bar (n : Nat) : Text :=
  List.replicate n '─'

/-- The title as it stands in the border: on one line, between spaces. -/
def shownTitle (title : Text) : Text :=
  " " ++ Text.expandTabs (title.map fun c => if c = '\n' then ' ' else c) ++ " "

/-- The title in the middle of `room` cells of border; a long one is cut. -/
def titleBar (room : Nat) (title : Text) : Text :=
  let shown := Text.cutCells room (shownTitle title)
  let excess := room - Text.cells shown
  let left := excess / 2
  Text.cutCells room (Text.trimEnd room (bar left ++ shown ++ bar (excess - left)))

def top (width : Nat) (title : Text) : Text :=
  if title.isEmpty || width ≤ 4 then "╭" ++ bar (width - 2) ++ "╮"
  else "╭─" ++ titleBar (width - 4) title ++ "─╮"

/-- The lines of a panel that is `width` cells wide. -/
def lines (width : Nat) (panel : Panel) : List Text :=
  let body := panel.paragraphs.flatMap fun p => Text.wrap (width - 4) (Text.cleaned p)
  top width (Text.cleaned panel.title) ::
    body.map (fun line => "│ " ++ Text.padCells (width - 4) line ++ " │") ++
    ["╰" ++ bar (width - 2) ++ "╯"]

end Panel

namespace Entry

/-- How well a feature is supported, and since when if that is known. -/
def statusLine (e : Entry) : Text :=
  "Baseline: " ++ e.status.label ++
    match e.status, e.lowDate.getD [], e.highDate.getD [] with
    | .newly, c :: date, _ => " (added to Baseline on " ++ (c :: date) ++ ")"
    | .widely, _, c :: date => " (widely supported since " ++ (c :: date) ++ ")"
    | _, _, _ => []

/-- An optional paragraph behind an empty one. -/
def setApart (s : Option Text) (lead : Text) : List Text :=
  match s with
  | none | some [] => []
  | some (c :: s) => [[], lead ++ (c :: s)]

def panel (e : Entry) (key : Text) : Panel where
  title := key
  paragraphs := [if e.name.isEmpty then key else e.name, e.statusLine] ++
    setApart e.description [] ++ setApart e.url "MDN Reference: "

end Entry

end WebBaseline
