import WebBaseline.Text.Basic

/-!
Comments of style sheets. A comment runs from `/*` to the first `*/` behind it. Masking writes spaces
over comments and so keeps every column; it goes line by line and carries on whether a comment is open.
-/

namespace WebBaseline.Stylesheet

/-- Masks the comments of one line. `inside` says whether a comment is open where the line starts; the
answer says whether one is open where it ends. -/
def maskLine : (inside : Bool) → Text → Text × Bool
  | inside, [] => ([], inside)
  | true, '*' :: '/' :: s =>
    let (masked, after) := maskLine false s
    (' ' :: ' ' :: masked, after)
  | true, _ :: s =>
    let (masked, after) := maskLine true s
    (' ' :: masked, after)
  | false, '/' :: '*' :: s =>
    let (masked, after) := maskLine true s
    (' ' :: ' ' :: masked, after)
  | false, c :: s =>
    let (masked, after) := maskLine false s
    (c :: masked, after)

/-- Masks the comments of consecutive lines. -/
def maskLines : (inside : Bool) → List Text → List Text
  | _, [] => []
  | inside, line :: rest =>
    let (masked, after) := maskLine inside line
    masked :: maskLines after rest

end WebBaseline.Stylesheet
