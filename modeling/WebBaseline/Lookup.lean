import WebBaseline.Index.Basic
import WebBaseline.Stylesheet.Declaration
import WebBaseline.Text.Matches

/-!
Looking up a word on demand, as under a cursor. `wordAt` finds the word at a column of a line, and
`resolve` finds what the index knows about a word: as a markup key, as a value of the declaration on
the line, as a selector or at-rule, or as a script key.
-/

namespace WebBaseline.Lookup

/-- Recognises a word: leading colons or `@` signs, then names joined by dots. -/
def word? : Text.Recogniser Text := fun s =>
  let lead := s.takeWhile fun c => c == '@' || c == ':'
  let body := (s.drop lead.length).takeWhile fun c => Text.isNameChar c || c == '.'
  let names := (Text.splitOn '.' body).takeWhile (!·.isEmpty)
  if names.isEmpty then none
  else
    let word := lead ++ Text.join "." names
    some (word.length, word)

/-- The word among `words` that covers `column`, or else the one that ends there. -/
def wordAtFrom (column : Int) (touching : Option Text) : List (Text.Match Text) → Option Text
  | [] => touching
  | m :: rest =>
    if column < m.start then touching
    else if column < m.stop then some m.value
    else wordAtFrom column (if column = m.stop then some m.value else touching) rest

/-- The word of a line at a column. A column just behind a word still selects it. -/
def wordAt (line : Text) (column : Int) : Option Text :=
  wordAtFrom column none (Text.Matches.all word? line)

/-- The key under which a markup table holds a value token of the declaration on the line. -/
def valueKey? (line key : Text) : Option Text :=
  match Stylesheet.Declaration.parse? line with
  | none => none
  | some d =>
    if (Stylesheet.valueTokens d.value).any fun token => Text.lower token = key then
      some (Text.lower d.name ++ "::" ++ key)
    else none

/-- The keys that are tried for a word in lower case, in order. -/
def markupCandidates (key line : Text) : List Text :=
  let bare := key.dropWhile fun c => c == ':' || c == '@'
  key :: (valueKey? line key).toList ++
    if bare.isEmpty then [] else [":" ++ bare, "::" ++ bare, "@" ++ bare]

/-- The first of the keys that the table holds, with its entry. -/
def firstKnown (table : Table Entry) (keys : List Text) : Option (Text × Entry) :=
  keys.findSome? fun key => (table.get? key).map (key, ·)

/-- What the index knows about a word on a line: the key and the entry. -/
def resolve (index : Index) (token line : Text) : Option (Text × Entry) :=
  (Text.stripped? token).bind fun word =>
    firstKnown index.markup (markupCandidates (Text.lower word) line) <|>
      firstKnown index.script [word]

end WebBaseline.Lookup
