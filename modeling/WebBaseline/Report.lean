import WebBaseline.Finding
import WebBaseline.Settings
import WebBaseline.Text.Cells

/-!
The report on a file: one line for every finding that is reported, made of styled pieces, and a summary
that counts the findings of each tier.
-/

namespace WebBaseline

/-- How a piece of a line is shown. -/
inductive Style where
  | bold
  | dim
  | yellow
  | cyan
deriving DecidableEq, Repr

namespace Style

def name : Style → Text
  | bold => "bold"
  | dim => "dim"
  | yellow => "yellow"
  | cyan => "cyan"

end Style

/-- A stretch of a line that has a style. -/
structure Span where
  start : Nat
  stop : Nat
  style : Style
deriving DecidableEq, Repr

structure StyledLine where
  plain : Text := []
  spans : List Span := []
deriving DecidableEq, Repr

namespace StyledLine

/-- The line with one more piece. -/
def add (line : StyledLine) (s : Text) (style : Option Style) : StyledLine :=
  let piece := Text.cleaned s
  let span := style.map fun style => ⟨line.plain.length, line.plain.length + piece.length, style⟩
  { plain := line.plain ++ piece, spans := line.spans ++ span.toList }

def ofPieces (pieces : List (Text × Option Style)) : StyledLine :=
  pieces.foldl (fun line piece => line.add piece.1 piece.2) {}

end StyledLine

namespace Severity

def style? : Severity → Option Style
  | warning => some .yellow
  | information => some .cyan
  | hint => some .dim
  | none => Option.none
  | named _ => Option.none

end Severity

namespace Finding

def message (f : Finding) : Text :=
  f.label ++ ": " ++ f.status.label ++ " - not fully supported across all major browsers"

/-- Where a finding stands, with lines and columns counted from one. -/
def place (f : Finding) (path : Text) : Text :=
  path ++ ":" ++ Text.ofNat (f.range.start.line + 1) ++ ":" ++ Text.ofNat (f.range.start.column + 1)

def line (f : Finding) (path : Text) (severity : Severity) : StyledLine :=
  StyledLine.ofPieces [
    (f.place path, some .bold), ("  ".toList, none),
    (severity.name, severity.style?), ("  ".toList, none),
    (f.message, none), ("  ".toList, none),
    ("[" ++ f.key ++ "]", some .dim)]

end Finding

namespace Report

def reported (settings : Settings) (findings : List Finding) : List Finding :=
  findings.filter fun f => (settings.severityFor f.status).isSome

/-- The report lines of the findings in a file. -/
def lines (path : Text) (settings : Settings) (findings : List Finding) : List StyledLine :=
  findings.filterMap fun f => (settings.severityFor f.status).map (f.line path)

def count (status : Status) (findings : List Finding) : Nat :=
  findings.countP fun f => f.status = status

/-- The counts of the tiers that are counted, without zeros. -/
def counts (findings : List Finding) : List (Nat × Status) :=
  ([Status.limited, Status.newly].map fun s => (count s findings, s)).filter fun (n, _) => n ≠ 0

def summary (findings : List Finding) : Text :=
  match counts findings with
  | [] => "Baseline: OK"
  | parts =>
    "Baseline Lite: " ++ Text.join ", " (parts.map fun (n, s) => Text.ofNat n ++ " " ++ s.shortLabel)

end Report

end WebBaseline
