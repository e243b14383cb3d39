import WebBaseline.Text.Line

/-!
Comments of HTML documents. A comment runs from its opening mark to the first closing mark behind it,
or to the end of the document. Masking writes spaces over comments and keeps their line breaks.
-/

namespace WebBaseline.Markup

/-- A masked character: line breaks stay, all else becomes a space. -/
def blankChar (c : Char) : Char :=
  if c = '\r' || c = '\n' then c else ' '

/-- Masks the comments of a text; `inside` says whether a comment is open where it starts. -/
def maskFrom : (inside : Bool) → Text → Text
  | _, [] => []
  | false, '<' :: '!' :: '-' :: '-' :: s => ' ' :: ' ' :: ' ' :: ' ' :: maskFrom true s
  | false, c :: s => c :: maskFrom false s
  | true, '-' :: '-' :: '>' :: s => ' ' :: ' ' :: ' ' :: maskFrom false s
  | true, c :: s => blankChar c :: maskFrom true s

def mask (text : Text) : Text :=
  maskFrom false text

end WebBaseline.Markup
