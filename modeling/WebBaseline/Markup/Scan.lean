import WebBaseline.Finding
import WebBaseline.Markup.Comment
import WebBaseline.Markup.Foreign

/-!
Scanning an HTML document. Every opening tag outside comments and foreign content is looked up by its
name; every attribute by its value on this element, by its name on this element, or by its name as a
global attribute, whichever the index knows first.
-/

namespace WebBaseline.Markup

/-- Attributes that stand on nearly every element. They are not looked up as global attributes. -/
def commonAttributes : List Text := [
  "action", "alt", "charset", "class", "content", "for", "height", "href", "id", "lang", "method",
  "name", "rel", "role", "src", "style", "tabindex", "target", "title", "type", "value", "width"]

/-- What the index knows about an attribute: the key, the entry, and whether the key names the value. -/
def lookupAttribute (markup : Table Entry) (tag attr : Text) (value : Option Text) :
    Option (Text × Entry × Bool) :=
  let known (key : Text) (onValue : Bool) := (markup.get? key).map fun e => (key, e, onValue)
  let onElement := tag ++ "@" ++ attr
  let byValue := match value with
    | some (c :: v) => known (onElement ++ "::" ++ (c :: v)) true
    | _ => none
  byValue <|> known onElement false <|>
    if commonAttributes.contains attr then none else known attr false

/-- The finding for an attribute of a tag whose inner text starts at `base`. -/
def attributeFinding (index : Index) (text tag : Text) (base : Nat) (m : Text.Match Attribute) :
    Option Finding :=
  let attr := m.value
  let value := attr.value.map fun (_, raw) => (Text.strip raw).lower
  match lookupAttribute index.markup tag (Text.lower attr.name) value, attr.value with
  | none, _ => none
  | some (key, entry, true), some (start, raw) =>
    let start := base + m.start + start
    Finding.of? (some entry) key (Range.ofOffsets text start (start + raw.length))
      (attr.name ++ "=\"" ++ raw ++ "\"")
  | some (key, entry, _), _ =>
    let start := base + m.start
    Finding.of? (some entry) key (Range.ofOffsets text start (start + attr.name.length)) attr.name

/-- The findings for a tag: its name, then its attributes. -/
def tagFindings (index : Index) (text : Text) (m : Text.Match Tag) : List Finding :=
  let name := m.value.name
  let tag := Text.lower name
  let start := m.start + 1
  let base := start + name.length
  (Finding.of? (index.markup.get? tag) tag (Range.ofOffsets text start base)
    ("<" ++ name ++ ">")).toList ++
  (Text.Matches.all Attribute.recognise m.value.inner).filterMap
    (attributeFinding index text tag base)

def within (ranges : List (Nat × Nat)) (o : Nat) : Bool :=
  ranges.any fun (start, stop) => start ≤ o && o < stop

def scan (text : Text) (index : Index) : List Finding :=
  let masked := mask text
  let foreign := foreignRanges masked
  ((Text.Matches.all Tag.recognise masked).filter fun m => !within foreign m.start).flatMap
    (tagFindings index text)

end WebBaseline.Markup
