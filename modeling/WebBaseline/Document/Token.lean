import WebBaseline.Document.Reference

/-!
The tokens of a document: characters, tags, comments and document types. `next` reads one token from the
front of a text. How it reads depends on the mode, which the tree builder sets: in most elements markup
and character references count, in some only references do, and in some neither.
-/

namespace WebBaseline.Document

structure Tag where
  name : Text
  attributes : List (Text × Text) := []
  closesItself : Bool := false
deriving DecidableEq, Repr

inductive Token where
  | char (c : Char)
  | opening (tag : Tag)
  | closing (name : Text)
  | comment
  /-- A document type; the flag says whether it asks for the old layout rules. -/
  | doctype (legacy : Bool)
  /-- The end of the document. -/
  | stop
deriving DecidableEq, Repr

/-- How the text of the current element is read. -/
inductive Mode where
  | markup
  /-- References count, and the closing tag of this name. -/
  | plain (name : Text)
  /-- Only the closing tag of this name counts. -/
  | raw (name : Text)
  /-- As `raw`, with comments that may hide a closing tag. -/
  | script
  /-- Nothing counts. -/
  | all
deriving DecidableEq, Repr

def isSpace (c : Char) : Bool :=
  c = ' ' || c = '\t' || c = '\n' || c = '\x0c' || c = '\r'

def isAlphanumeric (c : Char) : Bool :=
  Text.isLetter c || Text.isDigit c

/-! ### Character references -/

def replacement : Char := Char.ofNat 0xFFFD

/-- The code points that stand for those from 128 to 159 in references by number. -/
def numberedPoints : List (Nat × Nat) := [
  (0x80, 0x20AC), (0x82, 0x201A), (0x83, 0x0192), (0x84, 0x201E), (0x85, 0x2026), (0x86, 0x2020),
  (0x87, 0x2021), (0x88, 0x02C6), (0x89, 0x2030), (0x8A, 0x0160), (0x8B, 0x2039), (0x8C, 0x0152),
  (0x8E, 0x017D), (0x91, 0x2018), (0x92, 0x2019), (0x93, 0x201C), (0x94, 0x201D), (0x95, 0x2022),
  (0x96, 0x2013), (0x97, 0x2014), (0x98, 0x02DC), (0x99, 0x2122), (0x9A, 0x0161), (0x9B, 0x203A),
  (0x9C, 0x0153), (0x9E, 0x017E), (0x9F, 0x0178)]

/-- The character of a reference by number. -/
def numberedChar (n : Nat) : Char :=
  if n = 0 || 0x10FFFF < n || (0xD800 ≤ n && n ≤ 0xDFFF) then replacement
  else Char.ofNat ((numberedPoints.lookup n).getD n)

/-- The length of a run of digits with the semicolon behind it, and the character. -/
def numbered (lead : Nat) (digits : Text) (value : Nat) (rest : Text) : Nat × Text :=
  (lead + digits.length + if rest.head? = some ';' then 1 else 0, [numberedChar value])

/-- The longest part of `name`, of at most `n` characters, that may stand without a semicolon. -/
def longestBare? (name : Text) : (n : Nat) → Option Text
  | 0 => none
  | n + 1 => if isBare (name.take (n + 1)) then some (name.take (n + 1)) else longestBare? name n

/-- The reference behind an ampersand: its length, and the text it stands for. -/
def reference? (s : Text) : Option (Nat × Text) :=
  match s with
  | '#' :: x :: t =>
    if x = 'x' || x = 'X' then
      let digits := t.takeWhile Text.isHexDigit
      if digits.isEmpty then none
      else some (numbered 2 digits (Text.hexValue digits) (t.drop digits.length))
    else
      let digits := (x :: t).takeWhile Text.isDigit
      if digits.isEmpty then none
      else some (numbered 1 digits (Text.digitsValue 0 digits) ((x :: t).drop digits.length))
  | _ =>
    let name := s.takeWhile isAlphanumeric
    let whole := if (s.drop name.length).head? = some ';' then named? name else none
    match whole with
    | some text => some (name.length + 1, text)
    | none =>
      (longestBare? name (min name.length 8)).bind fun bare =>
        (named? bare).map fun text => (bare.length, text)

/-! ### Tags -/

/-- Where the reading of a tag stands behind its name. -/
inductive TagState where
  | gap
  | name
  | afterName
  | beforeValue
  | quoted (quote : Char)
  | unquoted
  | afterValue
  | slash
deriving DecidableEq, Repr

/-- A tag while it is read: its finished attributes, and the current one reversed. -/
structure TagDraft where
  state : TagState := .gap
  attributes : List (Text × Text) := []
  name : Text := []
  value : Text := []

namespace TagDraft

/-- Puts the current attribute to the finished ones. Of two attributes of one name the first stays. -/
def finish (d : TagDraft) : TagDraft :=
  let name := d.name.reverse
  if d.name.isEmpty || (d.attributes.lookup name).isSome then { d with name := [], value := [] }
  else { d with attributes := d.attributes ++ [(name, d.value.reverse)], name := [], value := [] }

/-- The draft after a character where an attribute may start. -/
def start (d : TagDraft) (c : Char) : TagDraft :=
  if isSpace c then { d.finish with state := .gap }
  else if c = '/' then { d.finish with state := .slash }
  else { d.finish with state := .name, name := [c.toLower] }

/-- The draft after a character that does not end the tag. -/
def step (d : TagDraft) (c : Char) : TagDraft :=
  match d.state with
  | .gap | .slash | .afterValue => d.start c
  | .name =>
    if isSpace c then { d with state := .afterName }
    else if c = '/' then { d.finish with state := .slash }
    else if c = '=' then { d with state := .beforeValue }
    else { d with name := c.toLower :: d.name }
  | .afterName =>
    if isSpace c then d
    else if c = '=' then { d with state := .beforeValue }
    else d.start c
  | .beforeValue =>
    if isSpace c then d
    else if c = '"' || c = '\'' then { d with state := .quoted c }
    else { d with state := .unquoted, value := [c] }
  | .quoted q => if c = q then { d with state := .afterValue } else { d with value := c :: d.value }
  | .unquoted =>
    if isSpace c then { d.finish with state := .gap } else { d with value := c :: d.value }

/-- Whether a closing angle bracket ends the tag. -/
def endsHere (d : TagDraft) : Bool :=
  match d.state with
  | .quoted _ => false
  | _ => true

end TagDraft

/-- Reads the attributes of a tag and its end: the tag, and what follows it. A tag that the document
ends in is lost. -/
def readTag (name : Text) (d : TagDraft) : Text → Option (Tag × Text)
  | [] => none
  | c :: s =>
    if c = '>' && d.endsHere then some (⟨name, d.finish.attributes, d.state = .slash⟩, s)
    else readTag name (d.step c) s

def tagName (s : Text) : Text × Text :=
  let name := s.takeWhile fun c => !isSpace c && c != '/' && c != '>'
  (Text.asciiLower name, s.drop name.length)

def tag? (s : Text) : Option (Tag × Text) :=
  let (name, rest) := tagName s
  readTag name {} rest

/-! ### Comments and declarations -/

/-- What follows the first occurrence of `mark`, or nothing. -/
def behind (mark s : Text) : Text :=
  ((Text.cutAt? mark s).map (·.2)).getD []

/-- What follows a comment whose text starts here. -/
def behindComment (s : Text) : Text :=
  if s.startsWith ">" then s.drop 1
  else if s.startsWith "->" then s.drop 2
  else
    match Text.find? "-->" s, Text.find? "--!>" s with
    | none, none => []
    | some i, none => s.drop (i + 3)
    | none, some j => s.drop (j + 4)
    | some i, some j => if i < j then s.drop (i + 3) else s.drop (j + 4)

/-- Whether a document type, given by its text, asks for the old layout rules: it does unless its name
is that of the language, with nothing behind it but identifiers. -/
def isLegacyDoctype (text : Text) : Bool :=
  let name := (text.dropWhile isSpace).takeWhile (!isSpace ·)
  Text.asciiLower name != "html".toList

/-- Reads what stands behind `<!`. `foreign` says whether character data sections count here. -/
def declaration (foreign : Bool) (s : Text) : List Token × Text :=
  if s.startsWith "--" then ([.comment], behindComment (s.drop 2))
  else if Text.asciiLower (s.take 7) = "doctype".toList then
    let text := (s.drop 7).takeWhile (· != '>')
    ([.doctype (isLegacyDoctype text)], s.drop (text.length + 8))
  else if foreign && s.startsWith "[CDATA[" then
    let inner := s.drop 7
    match Text.cutAt? "]]>" inner with
    | some (text, rest) => (text.map .char, rest)
    | none => (inner.map .char, [])
  else ([.comment], behind ">" s)

/-! ### One token -/

/-- Reads a character, with references resolved. -/
def character : Text → List Token × Text
  | [] => ([], [])
  | '&' :: s =>
    match reference? s with
    | some (n, text) => (text.map .char, s.drop n)
    | none => ([.char '&'], s)
  | c :: s => ([.char c], s)

def closingTag (s : Text) : List Token × Text :=
  match tag? s with
  | some (tag, rest) => ([.closing tag.name], rest)
  | none => ([], [])

/-- Reads markup behind an opening angle bracket. -/
def markup (foreign : Bool) : Text → List Token × Text
  | [] => ([.char '<'], [])
  | '!' :: s => declaration foreign s
  | '?' :: s => ([.comment], behind ">" s)
  | '/' :: s =>
    match s with
    | [] => ([.char '<', .char '/'], [])
    | '>' :: rest => ([], rest)
    | c :: _ => if Text.isLetter c then closingTag s else ([.comment], behind ">" s)
  | c :: s =>
    if Text.isLetter c then
      match tag? (c :: s) with
      | some (tag, rest) => ([.opening tag], rest)
      | none => ([], [])
    else ([.char '<'], c :: s)

/-- Whether the closing tag of `name` stands at the front of a text, its angle bracket apart. -/
def closes (name : Text) (s : Text) : Bool :=
  match Text.dropLead? "</" s with
  | none => false
  | some t =>
    Text.asciiLower (t.take name.length) = name &&
      match t.drop name.length with
      | [] => false
      | c :: _ => isSpace c || c = '/' || c = '>'

/-- How far a script has hidden its closing tag: behind a comment mark, or behind an opening tag there. -/
inductive Hiding where
  | none
  | comment
  | tag
deriving DecidableEq, Repr

/-- Whether the opening tag of a script stands at the front of a text. -/
def opensScript (s : Text) : Bool :=
  Text.asciiLower (s.take 7) = "<script".toList &&
    match s.drop 7 with
    | [] => false
    | c :: _ => isSpace c || c = '/' || c = '>'

/-- The text of a script up to its closing tag. -/
def scriptText (cover : Hiding) : Text → Text
  | [] => []
  | c :: s =>
    let here : Text := c :: s
    if cover != .tag && closes "script" here then []
    else
      let cover :=
        if cover = .none && here.startsWith "<!--" then .comment
        else if cover != .none && here.startsWith "-->" then .none
        else if cover = .comment && opensScript here then .tag
        else if cover = .tag && closes "script" here then .comment
        else cover
      c :: scriptText cover s

/-- Reads the next tokens of a text that is not empty. A stretch of the text may give none. -/
def next (mode : Mode) (foreign : Bool) (s : Text) : List Token × Text :=
  match mode with
  | .markup =>
    match s with
    | '<' :: t => markup foreign t
    | _ => character s
  | .plain name => if closes name s then closingTag (s.drop 2) else character s
  | .raw name =>
    if closes name s then closingTag (s.drop 2)
    else match s with
      | [] => ([], [])
      | c :: t => ([.char c], t)
  | .script =>
    let text := scriptText .none s
    if text.isEmpty then closingTag (s.drop 2) else (text.map .char, s.drop text.length)
  | .all => (s.map .char, [])

end WebBaseline.Document
