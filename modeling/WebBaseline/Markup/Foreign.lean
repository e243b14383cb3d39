import WebBaseline.Markup.Tag

/-!
Foreign content: what stands inside `svg` and `math` elements. Names there overlap with those of CSS
properties, so tags in foreign content are not looked up.
-/

namespace WebBaseline.Markup

inductive ForeignTag where
  | opening (selfClosing : Bool)
  | closing
deriving DecidableEq, Repr

/-- Whether `c` is the Latin letter `letter` in either case; the long s counts as an s. -/
def isLetterOf (letter c : Char) : Bool :=
  c.toLower == letter || (letter == 's' && c == 'ſ')

/-- The rest behind the word `word`, in either case. -/
def dropWord? : (word s : Text) → Option Text
  | [], s => some s
  | _ :: _, [] => none
  | a :: word, c :: s => if isLetterOf a c then dropWord? word s else none

/-- Recognises a tag that opens or closes foreign content. -/
def ForeignTag.recognise : Text.Recogniser ForeignTag
  | '<' :: s =>
    let (isEnd, body) : Bool × Text := match s with
      | '/' :: more => (true, more)
      | _ => (false, s)
    match dropWord? "svg" body <|> dropWord? "math" body with
    | none => none
    | some rest =>
      if endsName rest then
        (inner? rest).map fun inner =>
          let length := 1 + (s.length - rest.length) + inner.length + 1
          (length, if isEnd then .closing else .opening ((Text.stripRight inner).endsWith "/"))
      else none
  | _ => none

/-- The foreign stretches of a text of length `size`, from the tags that are left. `depth` elements are
open, the outermost since `start`. -/
def foreignFrom (size : Nat) : (depth start : Nat) → List (Text.Match ForeignTag) → List (Nat × Nat)
  | 0, _, [] => []
  | _ + 1, start, [] => [(start, size)]
  | depth, start, m :: rest =>
    match m.value, depth with
    | .closing, 0 => foreignFrom size 0 start rest
    | .closing, 1 => (start, m.start) :: foreignFrom size 0 start rest
    | .closing, depth + 1 => foreignFrom size depth start rest
    | .opening true, depth => foreignFrom size depth start rest
    | .opening false, 0 => foreignFrom size 1 m.stop rest
    | .opening false, depth => foreignFrom size (depth + 1) start rest

/-- The stretches of a masked document that lie inside outermost foreign elements. -/
def foreignRanges (masked : Text) : List (Nat × Nat) :=
  foreignFrom masked.length 0 0 (Text.Matches.all ForeignTag.recognise masked)

end WebBaseline.Markup
