import WebBaseline.Text.Blank
import WebBaseline.Text.Word

/-!
Declarations: a property name, a colon and a value, as in `text-wrap: balance;`. The value is cut into
tokens at blanks, commas and parentheses.
-/

namespace WebBaseline.Stylesheet

/-- A declaration in a piece of text: where the name starts, the name, where the colon stands, and the
stripped value, which is not empty. -/
structure Declaration where
  start : Nat
  name : Text
  colon : Nat
  value : Text
deriving DecidableEq, Repr

/-- Reads a declaration that takes up the whole text, blanks and one semicolon at the end aside. -/
def Declaration.parse? (s : Text) : Option Declaration :=
  let body := s.dropWhile Text.isBlank
  let name := body.takeWhile Text.isNameChar
  let rest := (body.dropWhile Text.isNameChar).dropWhile Text.isBlank
  match rest with
  | ':' :: after =>
    let value := Text.strip (after.takeWhile (· != ';'))
    let behind := (after.dropWhile (· != ';')).drop 1
    if name.isEmpty || value.isEmpty || !behind.all Text.isBlank then none
    else some ⟨s.length - body.length, name, s.length - rest.length, value⟩
  | _ => none

def isValueSeparator (c : Char) : Bool :=
  Text.isBlank c || c == ',' || c == '(' || c == ')'

def valueTokens (value : Text) : List Text :=
  Text.fields isValueSeparator value

end WebBaseline.Stylesheet
