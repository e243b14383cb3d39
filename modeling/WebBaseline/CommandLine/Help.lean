import WebBaseline.CommandLine.Switch
import WebBaseline.Text.Fill

/-!
Help pages: how a command is used, what it does, and lists of its switches or of the commands below it.
Everything is laid out in eighty columns.
-/

namespace WebBaseline.CommandLine

def helpWidth : Nat := 80

/-- A part of a description: running text, or lines that stay as they are. -/
inductive Paragraph where
  | running (text : Text)
  | fixed (lines : List Text)
deriving DecidableEq, Repr

namespace Paragraph

def lines : Paragraph → List Text
  | running text => (Text.fill (helpWidth - 2) text).map ("  " ++ ·)
  | fixed lines => lines.map ("  " ++ ·)

end Paragraph

/-- A list of terms, each with what it means. -/
structure Glossary where
  heading : Text
  rows : List (Text × Text)
deriving DecidableEq, Repr

namespace Glossary

/-- The column at which the meanings start, behind the indent: two behind the longest term, or behind
thirty characters. -/
def column (rows : List (Text × Text)) : Nat :=
  min ((rows.map fun row => row.1.length).foldl max 0) 30 + 2

/-- The lines of a term and its meaning. A term that reaches the meanings has a line of its own. -/
def row (column : Nat) (term meaning : Text) : List Text :=
  let indent : Text := List.replicate (column + 2) ' '
  let lines := Text.fill (helpWidth - column - 2) meaning
  if term.length + 2 ≤ column then
    match lines with
    | [] => ["  " ++ term]
    | first :: rest =>
      ("  " ++ term ++ List.replicate (column - term.length) ' ' ++ first) :: rest.map (indent ++ ·)
  else ("  " ++ term) :: lines.map (indent ++ ·)

def lines (g : Glossary) : List Text :=
  (g.heading ++ ":") :: g.rows.flatMap fun (term, meaning) => row (column g.rows) term meaning

end Glossary

structure HelpPage where
  /-- How the command is called. -/
  usage : Text
  description : List Paragraph
  glossaries : List Glossary
deriving DecidableEq, Repr

namespace HelpPage

def usageLine (page : HelpPage) : Text :=
  "Usage: " ++ page.usage

/-- The lines of a help page: its parts with an empty line between them. -/
def lines (page : HelpPage) : List Text :=
  page.usageLine ::
    (page.description.map (·.lines) ++ page.glossaries.map (·.lines)).flatMap ([] :: ·)

end HelpPage

namespace Switch

/-- What stands for the value of a kind in the help. -/
def placeholder : Kind → Text
  | .flag => []
  | .text placeholder => " " ++ placeholder
  | .count => " INTEGER RANGE"
  | .file => " FILE"
  | .choice names => " [" ++ Text.join "|" names ++ "]"

def term (o : Switch) : Text :=
  Text.join ", " o.names ++ placeholder o.kind

end Switch

end WebBaseline.CommandLine
