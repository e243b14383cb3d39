import WebBaseline.Text.Ranges

/-!
Blank characters, and what is done with them: blanks at the ends of a text are stripped, runs of
blanks are collapsed to one space. Blanks are the white space of every script together with the
control characters that separate lines, files and records.
-/

namespace WebBaseline.Text

/-- The code points of blank characters, in increasing order. -/
def blankRanges : List (Nat × Nat) := [
  (9, 13), (28, 32), (133, 133), (160, 160), (5760, 5760), (8192, 8202), (8232, 8233), (8239, 8239),
  (8287, 8287), (12288, 12288)]

def isBlank (c : Char) : Bool :=
  Ranges.contains blankRanges c.toNat

def stripLeft (s : Text) : Text :=
  s.dropWhile isBlank

def stripRight (s : Text) : Text :=
  (s.reverse.dropWhile isBlank).reverse

def strip (s : Text) : Text :=
  stripRight (stripLeft s)

/-- The maximal runs of characters that do not satisfy `sep`. -/
def fields (sep : Char → Bool) (s : Text) : List Text :=
  (splitBy sep s).filter (!·.isEmpty)

/-- The words of `s` with one space between them. -/
def collapse (s : Text) : Text :=
  join " " (fields isBlank s)

/-- The stripped text, if anything is left of it. -/
def stripped? (s : Text) : Option Text :=
  let t := strip s
  if t.isEmpty then none else some t

end WebBaseline.Text
