import WebBaseline.Text.Blank
import WebBaseline.Text.Matches

/-!
Tags and attributes of HTML documents, as far as a scan needs them: an opening tag is a name and the
text up to the closing angle bracket; that text is read as attributes.
-/

namespace WebBaseline.Markup

/-- A character that may follow a tag name. -/
def endsName : Text → Bool
  | [] => false
  | c :: _ => Text.isBlank c || c == '/' || c == '>'

def isTagChar (c : Char) : Bool :=
  Text.isLetter c || Text.isDigit c || c == '-'

/-- Text inside a tag: neither angle bracket. -/
def isInner (c : Char) : Bool :=
  c != '<' && c != '>'

/-- The text up to the closing angle bracket, if that comes before an opening one. -/
def inner? (s : Text) : Option Text :=
  match s.dropWhile isInner with
  | '>' :: _ => some (s.takeWhile isInner)
  | _ => none

/-- An opening tag: its name and the text between name and closing bracket. -/
structure Tag where
  name : Text
  inner : Text
deriving DecidableEq, Repr

def Tag.recognise : Text.Recogniser Tag
  | '<' :: s =>
    let name := s.takeWhile isTagChar
    let rest := s.dropWhile isTagChar
    if (name.take 1).all Text.isLetter && !name.isEmpty && endsName rest then
      (inner? rest).map fun inner => (name.length + inner.length + 2, ⟨name, inner⟩)
    else none
  | _ => none

/-- An attribute: its name and, if it has one, its value and where that starts. -/
structure Attribute where
  name : Text
  value : Option (Nat × Text)
deriving DecidableEq, Repr

def isAttributeChar (c : Char) : Bool :=
  !(Text.isBlank c || c == '"' || c == '\'' || c == '<' || c == '>' || c == '/' || c == '=')

/-- A character of a value without quotes. -/
def isBareChar (c : Char) : Bool :=
  !(Text.isBlank c || c == '"' || c == '\'' || c == '=' || c == '<' || c == '>' || c == Char.ofNat 96)

/-- The value between quotes `q`, behind the first one. -/
def quoted? (q : Char) (s : Text) : Option Text :=
  match s.dropWhile (· != q) with
  | [] => none
  | _ => some (s.takeWhile (· != q))

/-- The value at the front of a text: how far it starts behind the front, its text, and how many
characters it takes with its quotes. -/
def attributeValue? (s : Text) : Option (Nat × Text × Nat) :=
  match s.dropWhile Text.isBlank with
  | '=' :: rest =>
    let body := rest.dropWhile Text.isBlank
    let lead := s.length - body.length
    match body with
    | '"' :: more => (quoted? '"' more).map fun v => (lead + 1, v, lead + v.length + 2)
    | '\'' :: more => (quoted? '\'' more).map fun v => (lead + 1, v, lead + v.length + 2)
    | _ =>
      let v := body.takeWhile isBareChar
      if v.isEmpty then none else some (lead, v, lead + v.length)
  | _ => none

def Attribute.recognise : Text.Recogniser Attribute := fun s =>
  let name := s.takeWhile isAttributeChar
  if name.isEmpty then none
  else match attributeValue? (s.dropWhile isAttributeChar) with
    | none => some (name.length, ⟨name, none⟩)
    | some (start, value, length) =>
      some (name.length + length, ⟨name, some (name.length + start, value)⟩)

end WebBaseline.Markup
