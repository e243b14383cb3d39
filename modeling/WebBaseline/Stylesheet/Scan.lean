import WebBaseline.Finding
import WebBaseline.Stylesheet.Comment
import WebBaseline.Stylesheet.Declaration
import WebBaseline.Text.Matches

/-!
Scanning a style sheet. Each masked line is cut into segments at braces and semicolons, so that a rule
on one line is read like one spread over several. A segment that starts with `@` is an at-rule; outside
of all blocks, or before an opening brace, it is a selector; otherwise it is a declaration.
-/

namespace WebBaseline.Stylesheet

/-- A piece of a line: its first column, its text, and the brace or semicolon that ends it. -/
structure Segment where
  start : Nat
  text : Text
  terminator : Option Char
deriving DecidableEq, Repr

def isTerminator (c : Char) : Bool :=
  c == '{' || c == '}' || c == ';'

/-- The segments of a line that starts at column `start`. -/
def segments (start : Nat) : Text → List Segment
  | [] => [⟨start, [], none⟩]
  | c :: s =>
    if isTerminator c then ⟨start, [], some c⟩ :: segments (start + 1) s
    else match segments (start + 1) s with
      | [] => [⟨start, [c], none⟩]
      | seg :: rest => ⟨start, c :: seg.text, seg.terminator⟩ :: rest

/-! ### At-rules and pseudo selectors -/

/-- A character of an at-rule name: a hyphen, a digit, or one that differs from a Latin letter in case
only. -/
def isRuleChar (c : Char) : Bool :=
  c == '-' || Text.isDigit c || Text.isLetter c || c == 'İ' || c == 'ı' || c == 'ſ' ||
    c == Char.ofNat 0x212A

/-- The finding for an at-rule that starts at `column`; `name` is what follows the `@`. -/
def atRule (index : Index) (line column : Nat) (rest : Text) : List Finding :=
  let name := rest.takeWhile isRuleChar
  if name.isEmpty then []
  else
    let key := '@' :: Text.lower name
    (Finding.of? (index.markup.get? key) key
      (Range.onLine line column (column + name.length + 1)) key).toList

def isPseudoChar (c : Char) : Bool :=
  Text.isLetter c || Text.isDigit c || c == '_' || c == '-'

/-- Recognises a pseudo selector: one or two colons and a name. -/
def pseudo? : Text.Recogniser (Text × Text) := fun s =>
  let colons : Text := match s with
    | ':' :: ':' :: _ => "::"
    | ':' :: _ => ":"
    | _ => []
  let name := (s.drop colons.length).takeWhile isPseudoChar
  if colons.isEmpty || name.isEmpty then none
  else some (colons.length + name.length, colons, name)

def pseudos (index : Index) (line : Nat) (seg : Segment) : List Finding :=
  (Text.Matches.all pseudo? seg.text).filterMap fun m =>
    let (colons, name) := m.value
    let key := colons ++ Text.lower name
    Finding.of? (index.markup.get? key) key
      (Range.onLine line (seg.start + m.start) (seg.start + m.stop)) (colons ++ name)

/-! ### Declarations -/

/-- The finding for one value token: at its first occurrence behind the colon. -/
def valueToken (index : Index) (line : Nat) (seg : Segment) (d : Declaration) (token : Text) :
    Option Finding :=
  let key := Text.lower d.name ++ "::" ++ Text.lower token
  match Text.find? token (seg.text.drop d.colon) with
  | none => none
  | some i =>
    let column := seg.start + d.colon + i
    Finding.of? (index.markup.get? key) key (Range.onLine line column (column + token.length))
      (d.name ++ ": " ++ token)

/-- The findings for a declaration: the property, then the tokens of its value. Custom properties are
passed over. -/
def declaration (index : Index) (line : Nat) (seg : Segment) : List Finding :=
  match Declaration.parse? seg.text with
  | none => []
  | some d =>
    let key := Text.lower d.name
    if key.startsWith "--" then []
    else
      let column := seg.start + d.start
      (Finding.of? (index.markup.get? key) key
        (Range.onLine line column (column + d.name.length)) d.name).toList ++
      (valueTokens d.value).filterMap (valueToken index line seg d)

/-! ### Lines -/

/-- The findings of a segment that stands within `depth` open blocks. -/
def scanSegment (index : Index) (line depth : Nat) (seg : Segment) : List Finding :=
  match Text.stripLeft seg.text with
  | [] => []
  | '@' :: rest => atRule index line (seg.start + (seg.text.length - (rest.length + 1))) rest
  | _ =>
    if seg.terminator = some '{' || depth = 0 then pseudos index line seg
    else declaration index line seg

/-- The number of open blocks behind a segment. -/
def Segment.depthAfter (seg : Segment) (depth : Nat) : Nat :=
  if seg.terminator = some '{' then depth + 1
  else if seg.terminator = some '}' then depth - 1
  else depth

/-- The findings of consecutive segments of a line, and the number of open blocks behind them. -/
def scanSegments (index : Index) (line : Nat) : (depth : Nat) → List Segment → List Finding × Nat
  | depth, [] => ([], depth)
  | depth, seg :: rest =>
    let (found, after) := scanSegments index line (seg.depthAfter depth) rest
    (scanSegment index line depth seg ++ found, after)

/-- The findings of consecutive masked lines; `line` is the number of the first. -/
def scanLines (index : Index) : (line depth : Nat) → List Text → List Finding
  | _, _, [] => []
  | line, depth, s :: rest =>
    let (found, after) := scanSegments index line depth (segments 0 s)
    found ++ scanLines index (line + 1) after rest

def scan (text : Text) (index : Index) : List Finding :=
  scanLines index 0 0 (maskLines false (Text.lines text))

end WebBaseline.Stylesheet
