import WebBaseline.Toml.Basic

/-!
Reading TOML. A document is a list of statements: pairs of a key and a value, headers that open a table,
and headers that open the next table of an array. A table may be opened by a header once; what a value
holds cannot be changed by later statements.

An error is a fault together with the rest of the document where it was found, which gives its line and
column.
-/

namespace WebBaseline.Toml

/-- A key: its parts between dots. -/
abbrev Key := List Text

inductive Fault where
  | statement
  | statementEnd
  | keyStart
  | equalsSign
  | tableEnd
  | arrayTableEnd
  | declaredTwice (key : Key)
  | redefined (key : Key)
  | immutable (key : Key)
  | overwritten
  | duplicate (name : Text)
  | unclosedArray
  | unclosedTable
  | unterminated
  | illegalChar (c : Char)
  | invalidChar (c : Char)
  | missing (mark : Text)
  | escape
  | hexValue
  | notScalar
  | date
  | value
  /-- The reader gives up on a document that may be right. -/
  | broken (breakdown : Breakdown)
deriving DecidableEq, Repr

def keyShown (key : Key) : Text :=
  match key with
  | [name] => "(" ++ Text.Quoted.encode name ++ ",)"
  | _ => "(" ++ Text.join ", " (key.map Text.Quoted.encode) ++ ")"

namespace Fault

def message : Fault → Text
  | statement => "Invalid statement"
  | statementEnd => "Expected newline or end of document after a statement"
  | keyStart => "Invalid initial character for a key part"
  | equalsSign => "Expected '=' after a key in a key/value pair"
  | tableEnd => "Expected ']' at the end of a table declaration"
  | arrayTableEnd => "Expected ']]' at the end of an array declaration"
  | declaredTwice key => "Cannot declare " ++ keyShown key ++ " twice"
  | redefined key => "Cannot redefine namespace " ++ keyShown key
  | immutable key => "Cannot mutate immutable namespace " ++ keyShown key
  | overwritten => "Cannot overwrite a value"
  | duplicate name => "Duplicate inline table key " ++ Text.Quoted.encode name
  | unclosedArray => "Unclosed array"
  | unclosedTable => "Unclosed inline table"
  | unterminated => "Unterminated string"
  | illegalChar c => "Illegal character " ++ Text.Quoted.encode [c]
  | invalidChar c => "Found invalid character " ++ Text.Quoted.encode [c]
  | missing mark => "Expected " ++ Text.Quoted.encode mark
  | escape => "Unescaped '\\' in a string"
  | hexValue => "Invalid hex value"
  | notScalar => "Escaped character is not a Unicode scalar value"
  | date => "Invalid date or datetime"
  | value => "Invalid value"
  | broken breakdown => breakdown.message

end Fault

/-- What reading comes to: a result with the rest of the document, or a fault with the rest. -/
abbrev Outcome (α : Type) := Except (Fault × Text) (α × Text)

/-! ### Characters -/

def isSpace (c : Char) : Bool := c = ' ' || c = '\t'

def skipSpace (s : Text) : Text := s.dropWhile isSpace

def isControl (c : Char) : Bool := (c.toNat < 32 && c != '\t') || c.toNat = 127

/-- A control character that may not stand in a text of several lines. -/
def isControlInLines (c : Char) : Bool := isControl c && c != '\n'

def isBareKeyChar (c : Char) : Bool := Text.isLetter c || Text.isDigit c || c = '-' || c = '_'

/-- Reads up to a mark, over characters that are none of the refused ones. The document's end takes the
place of the mark if `mayEnd` holds. -/
def upTo (mark : Text) (refused : Char → Bool) (mayEnd : Bool) (s : Text) : Outcome Text :=
  let found := Text.cutAt? mark s
  if found.isNone && !mayEnd then .error (.missing mark, [])
  else
    let before := (found.map (·.1)).getD s
    match s.drop (before.takeWhile (!refused ·)).length with
    | [] => .ok (before, [])
    | c :: rest =>
      if (before.takeWhile (!refused ·)).length < before.length then
        .error (.invalidChar c, c :: rest)
      else .ok (before, c :: rest)

def skipComment (s : Text) : Except (Fault × Text) Text :=
  match s with
  | '#' :: t => (upTo "\n" isControl true t).map (·.2)
  | _ => .ok s

/-- Skips spaces, line breaks and comments between the items of an array. -/
def skipLines : (fuel : Nat) → Text → Except (Fault × Text) Text
  | 0, s => .ok s
  | fuel + 1, s => do
    let t ← skipComment (s.dropWhile fun c => isSpace c || c = '\n')
    if t.length < s.length then skipLines fuel t else return t

/-! ### Strings -/

/-- Reads an escaped character by its number, of `n` hexadecimal digits. -/
def hexChar (n : Nat) (s : Text) : Outcome Text :=
  let digits := s.take n
  if digits.length ≠ n || !digits.all Text.isHexDigit then .error (.hexValue, s)
  else
    let value := Text.hexValue digits
    if value ≤ 0xD7FF || (0xE000 ≤ value && value ≤ 0x10FFFF) then
      .ok ([Char.ofNat value], s.drop n)
    else .error (.notScalar, s.drop n)

/-- Reads what stands behind a backslash. In a text of several lines it may hide a line break. -/
def escaped (inLines : Bool) (s : Text) : Outcome Text :=
  match s with
  | [] => .error (.escape, [])
  | c :: t =>
    if inLines && (isSpace c || c = '\n') then
      let hidden := fun (u : Text) => u.dropWhile fun d => isSpace d || d = '\n'
      if c = '\n' then .ok ([], hidden t)
      else match skipSpace t with
        | [] => .ok ([], [])
        | '\n' :: u => .ok ([], hidden u)
        | u => .error (.escape, u)
    else
      match c with
      | 'u' => hexChar 4 t
      | 'U' => hexChar 8 t
      | 'b' => .ok (['\x08'], t)
      | 't' => .ok (['\t'], t)
      | 'n' => .ok (['\n'], t)
      | 'f' => .ok (['\x0c'], t)
      | 'r' => .ok (['\r'], t)
      | '"' => .ok (['"'], t)
      | '\\' => .ok (['\\'], t)
      | _ => .error (.escape, t)

/-- Reads a string with escapes to its closing quotes. -/
def basicString (inLines : Bool) : (fuel : Nat) → (before : Text) → Text → Outcome Text
  | 0, _, s => .error (.unterminated, s)
  | fuel + 1, before, s =>
    match s with
    | [] => .error (.unterminated, [])
    | '"' :: t =>
      if !inLines then .ok (before.reverse, t)
      else if Text.startsWith t "\"\"" then .ok (before.reverse, t.drop 2)
      else basicString inLines fuel ('"' :: before) t
    | '\\' :: t =>
      match escaped inLines t with
      | .error e => .error e
      | .ok (text, rest) => basicString inLines fuel (text.reverse ++ before) rest
    | c :: t =>
      if (if inLines then isControlInLines c else isControl c) then .error (.illegalChar c, c :: t)
      else basicString inLines fuel (c :: before) t

/-- Up to two further quotes behind a closing sequence belong to the string. -/
def withQuotes (quote : Char) (result : Text × Text) : Text × Text :=
  match result with
  | (text, a :: b :: rest) =>
    if a = quote && b = quote then (text ++ [quote, quote], rest)
    else if a = quote then (text ++ [quote], b :: rest)
    else (text, a :: b :: rest)
  | (text, [a]) => if a = quote then (text ++ [quote], []) else (text, [a])
  | (text, []) => (text, [])

/-- A line break right behind the opening sequence does not count. -/
def dropBreak (s : Text) : Text :=
  match s with
  | '\n' :: t => t
  | _ => s

/-- Reads a string of one line without escapes, behind its quote. -/
def literalString (s : Text) : Outcome Text :=
  (upTo "'" isControl false s).map fun (text, rest) => (text, rest.drop 1)

def string? (s : Text) : Option (Outcome Text) :=
  match s with
  | '"' :: t =>
    some (match Text.dropLead? "\"\"" t with
      | some u => (basicString true (u.length + 1) [] (dropBreak u)).map (withQuotes '"')
      | none => basicString false (t.length + 1) [] t)
  | '\'' :: t =>
    some (match Text.dropLead? "''" t with
      | some u =>
        (upTo "'''" isControlInLines false (dropBreak u)).map fun (text, rest) =>
          withQuotes '\'' (text, rest.drop 3)
      | none => literalString t)
  | _ => none

/-! ### Keys -/

def keyPart (s : Text) : Outcome Text :=
  match s with
  | [] => .error (.keyStart, [])
  | c :: t =>
    if isBareKeyChar c then .ok (s.takeWhile isBareKeyChar, s.dropWhile isBareKeyChar)
    else if c = '\'' then literalString t
    else if c = '"' then basicString false (t.length + 1) [] t
    else .error (.keyStart, s)

/-- Reads the parts of a key behind the parts in `before`. -/
def keyFrom : (fuel : Nat) → (before : Key) → Text → Outcome Key
  | 0, _, s => .error (.keyStart, s)
  | fuel + 1, before, s =>
    match keyPart s with
    | .error e => .error e
    | .ok (name, rest) =>
      match skipSpace rest with
      | '.' :: t => keyFrom fuel (before ++ [name]) (skipSpace t)
      | t => .ok (before ++ [name], t)

def key (s : Text) : Outcome Key :=
  keyFrom (s.length + 1) [] s

/-! ### Numbers, dates and times -/

/-- Exactly `n` digits, within bounds. -/
def digits? (n low high : Nat) (s : Text) : Option (Nat × Text) :=
  let ds := s.take n
  let value := Text.digitsValue 0 ds
  if ds.length = n && ds.all Text.isDigit && low ≤ value && value ≤ high then some (value, s.drop n)
  else none

def behind? (c : Char) (s : Text) : Option Text :=
  Text.dropLead? [c] s

/-- Millionths behind a point; further digits do not count. -/
def micros (s : Text) : Nat × Text :=
  match s with
  | '.' :: t =>
    let ds := t.takeWhile Text.isDigit
    if ds.isEmpty then (0, s)
    else (Text.digitsValue 0 ((ds ++ List.replicate 6 '0').take 6), t.drop ds.length)
  | _ => (0, s)

def time? (s : Text) : Option (Time × Text) := do
  let (hour, s) ← digits? 2 0 23 s
  let s ← behind? ':' s
  let (minute, s) ← digits? 2 0 59 s
  let s ← behind? ':' s
  let (second, s) ← digits? 2 0 59 s
  let (micro, s) := micros s
  return (⟨hour, minute, second, micro⟩, s)

def offset (s : Text) : Option Int × Text :=
  let signed := fun (sign : Int) (t : Text) => do
    let (hours, t) ← digits? 2 0 23 t
    let t ← behind? ':' t
    let (minutes, t) ← digits? 2 0 59 t
    return (some (sign * (hours * 60 + minutes : Nat)), t)
  match s with
  | 'Z' :: t => (some 0, t)
  | 'z' :: t => (some 0, t)
  | '+' :: t => (signed 1 t).getD (none, s)
  | '-' :: t => (signed (-1) t).getD (none, s)
  | _ => (none, s)

def date? (s : Text) : Option (Date × Text) := do
  let (year, s) ← digits? 4 0 9999 s
  let s ← behind? '-' s
  let (month, s) ← digits? 2 1 12 s
  let s ← behind? '-' s
  let (day, s) ← digits? 2 1 31 s
  return (⟨year, month, day⟩, s)

/-- A date, with a time behind it if there is one. -/
def moment? (s : Text) : Option (Outcome Toml) :=
  (date? s).map fun (d, rest) =>
    if !d.isValid then .error (.date, s)
    else
      let timed := match rest with
        | c :: t => if c = 'T' || c = 't' || c = ' ' then time? t else none
        | [] => none
      match timed with
      | none => .ok (.date d, rest)
      | some (t, rest) =>
        let (zone, rest) := offset rest
        .ok (.moment d t zone, rest)

/-- Digits behind a digit, each with at most one underscore before it. -/
def moreDigits (p : Char → Bool) : Text → Nat
  | [] => 0
  | '_' :: c :: s => if p c then moreDigits p s + 2 else 0
  | c :: s => if p c then moreDigits p s + 1 else 0

/-- A run of digits with single underscores between them: the digits, and the rest. -/
def digitRun? (p : Char → Bool) (s : Text) : Option (Text × Text) :=
  match s with
  | [] => none
  | c :: t =>
    if p c then
      let n := moreDigits p t + 1
      some ((s.take n).filter (· != '_'), s.drop n)
    else none

def based? (s : Text) : Option (Toml × Text) :=
  let number := fun (base : Nat) (p : Char → Bool) (t : Text) =>
    (digitRun? p t).map fun (ds, rest) =>
      (Toml.int (ds.foldl (fun n c => n * base + Text.hexDigit c) 0 : Nat), rest)
  match s with
  | '0' :: 'x' :: t => number 16 Text.isHexDigit t
  | '0' :: 'b' :: t => number 2 (fun c => c = '0' || c = '1') t
  | '0' :: 'o' :: t => number 8 (fun c => '0' ≤ c && c ≤ '7') t
  | _ => none

def fraction? (s : Text) : Option (Text × Text) :=
  (behind? '.' s).bind (digitRun? Text.isDigit)

def exponent? (s : Text) : Option (Int × Text) :=
  let number := fun (sign : Int) (t : Text) =>
    (digitRun? Text.isDigit t).map fun (ds, rest) => (sign * (Text.digitsValue 0 ds : Nat), rest)
  match s with
  | c :: t =>
    if c = 'e' || c = 'E' then
      match t with
      | '+' :: u => number 1 u
      | '-' :: u => number (-1) u
      | u => number 1 u
    else none
  | [] => none

/-- A decimal number behind its sign. -/
def decimal? (negative : Bool) (s : Text) : Option (Outcome Toml) :=
  let whole := match s with
    | '0' :: t => some (['0'], t)
    | t => digitRun? Text.isDigit t
  whole.map fun (ds, rest) =>
    let frac := fraction? rest
    let afterFraction := (frac.map (·.2)).getD rest
    let exp := exponent? afterFraction
    if frac.isNone && exp.isNone then
      if Text.maxDigits < ds.length then .error (.broken (.digitsRead ds.length), s)
      else
        let n : Int := (Text.digitsValue 0 ds : Nat)
        .ok (.int (if negative then -n else n), rest)
    else
      let fs := (frac.map (·.1)).getD []
      let e := (exp.map (·.1)).getD 0
      .ok (.real (Double.ofDecimal negative (Text.digitsValue 0 (ds ++ fs)) (e - fs.length)),
        (exp.map (·.2)).getD afterFraction)

def number? (s : Text) : Option (Outcome Toml) :=
  match based? s with
  | some result => some (.ok result)
  | none =>
    match s with
    | '+' :: t => decimal? false t
    | '-' :: t => decimal? true t
    | t => decimal? false t

def word? (s : Text) : Option (Toml × Text) :=
  [("true", Toml.bool true), ("false", .bool false), ("inf", .real (.infinite false)), ("nan", .real .nan),
    ("-inf", .real (.infinite true)), ("+inf", .real (.infinite false)), ("-nan", .real .nan),
    ("+nan", .real .nan)].findSome? fun (w, value) =>
    (Text.dropLead? w.toList s).map (value, ·)

/-- A value that holds no others. -/
def plainValue (s : Text) : Outcome Toml :=
  match string? s with
  | some result => result.map fun (text, rest) => (.str text, rest)
  | none =>
    match moment? s with
    | some result => result
    | none =>
      let timed := (time? s).map fun (t, rest) => .ok (Toml.time t, rest)
      match timed <|> number? s <|> (word? s).map .ok with
      | some result => result
      | none => .error (.value, s)

/-! ### Tables -/

/-- The last member of a list, changed by a function that may refuse. -/
def changeLast? (f : Toml → Option Toml) : List Toml → Option (List Toml)
  | [] => none
  | [item] => (f item).map ([·])
  | item :: rest => (changeLast? f rest).map (item :: ·)

/-- Changes the table under a key, which is created if there is none. In a list of tables the last one
counts, if `intoLists` holds. There is no result if another value is in the way or the change is
refused. -/
def changeAt? (intoLists : Bool) (f : List (Text × Toml) → Option (List (Text × Toml))) :
    Key → List (Text × Toml) → Option (List (Text × Toml))
  | [], members => f members
  | name :: path, members =>
    match lookup name members with
    | none => (changeAt? intoLists f path []).map fun inner => put name (.table inner) members
    | some (.table inner) =>
      (changeAt? intoLists f path inner).map fun inner => put name (.table inner) members
    | some (.arr items) =>
      if intoLists then
        (changeLast? (fun item => item.members?.bind fun inner =>
          (changeAt? intoLists f path inner).map .table) items).map fun items =>
          put name (.arr items) members
      else none
    | some _ => none

/-- Puts a value under a key that has none. -/
def addTo? (name : Text) (value : Toml) (members : List (Text × Toml)) :
    Option (List (Text × Toml)) :=
  if (lookup name members).isSome then none else some (put name value members)

def isBelow (keys : List Key) (k : Key) : Bool :=
  keys.any fun outer => outer.isPrefixOf k

def holdsOthers : Toml → Bool
  | .arr _ => true
  | .table _ => true
  | _ => false

mutual

/-- Reads a value. Each step uses one unit of `fuel`. An array uses two units of `depth` and a table in braces
three, which are the calls that a reader makes for them. -/
def value : (fuel depth : Nat) → Text → Outcome Toml
  | 0, _, s => .error (.value, s)
  | fuel + 1, depth, s =>
    match s, depth with
    | '[' :: t, depth + 2 =>
      match skipLines (t.length + 1) t with
      | .error e => .error e
      | .ok (']' :: rest) => .ok (.arr [], rest)
      | .ok t => items fuel depth [] t
    | '\x7b' :: t, depth + 3 =>
      match skipSpace t with
      | '\x7d' :: rest => .ok (.table [], rest)
      | t => inlineMembers fuel depth [] [] t
    | s, _ =>
      if s.startsWith "[" || s.startsWith "\x7b" then .error (.broken (.nesting []), s)
      else plainValue s

/-- Reads the items of an array behind the reversed items in `before`. -/
def items : (fuel depth : Nat) → (before : List Toml) → Text → Outcome Toml
  | 0, _, _, s => .error (.unclosedArray, s)
  | fuel + 1, depth, before, s =>
    match value fuel depth s with
    | .error e => .error e
    | .ok (item, rest) =>
      let before := item :: before
      match skipLines (rest.length + 1) rest with
      | .error e => .error e
      | .ok (']' :: rest) => .ok (.arr before.reverse, rest)
      | .ok (',' :: t) =>
        match skipLines (t.length + 1) t with
        | .error e => .error e
        | .ok (']' :: rest) => .ok (.arr before.reverse, rest)
        | .ok t => items fuel depth before t
      | .ok t => .error (.unclosedArray, t)

/-- Reads a key, the sign behind it and a value. -/
def pair : (fuel depth : Nat) → Text → Outcome (Key × Toml)
  | 0, _, s => .error (.value, s)
  | fuel + 1, depth, s =>
    match key s with
    | .error e => .error e
    | .ok (k, '=' :: t) => (value fuel depth (skipSpace t)).map fun (v, rest) => ((k, v), rest)
    | .ok (_, t) => .error (.equalsSign, t)

/-- Reads the members of a table in braces. What a value holds is frozen as soon as a further member
follows. -/
def inlineMembers : (fuel depth : Nat) → (members : List (Text × Toml)) → (frozen : List Key) → Text →
    Outcome Toml
  | 0, _, _, _, s => .error (.unclosedTable, s)
  | fuel + 1, depth, members, frozen, s =>
    match pair fuel depth s with
    | .error e => .error e
    | .ok ((k, v), rest) =>
      let name := k.getLast?.getD []
      if isBelow frozen k then .error (.immutable k, rest)
      else match changeAt? false some k.dropLast members with
        | none => .error (.overwritten, rest)
        | some _ =>
          match changeAt? false (addTo? name v) k.dropLast members with
          | none => .error (.duplicate name, rest)
          | some members =>
            match skipSpace rest with
            | '\x7d' :: rest => .ok (.table members, rest)
            | ',' :: t =>
              inlineMembers fuel depth members (if holdsOthers v then k :: frozen else frozen) (skipSpace t)
            | t => .error (.unclosedTable, t)

end

/-! ### Documents -/

/-- A document while it is read: its table, the header that holds, the keys that no header may open again,
those that the present section opens by dotted keys, and those that hold fixed values. -/
structure Draft where
  members : List (Text × Toml) := []
  header : Key := []
  explicit : List Key := []
  pending : List Key := []
  frozen : List Key := []

namespace Draft

/-- The keys that a dotted key opens on its way: all its beginnings but itself. -/
def opened (header : Key) (k : Key) : List Key :=
  (List.range (k.length - 1)).map fun i => header ++ k.take (i + 1)

def assign (d : Draft) (k : Key) (v : Toml) : Except Fault Draft :=
  let ways := opened d.header k
  let parent := d.header ++ k.dropLast
  match ways.find? d.explicit.contains with
  | some way => .error (.redefined way)
  | none =>
    if isBelow d.frozen parent then .error (.immutable parent)
    else match changeAt? true (addTo? (k.getLast?.getD []) v) parent d.members with
      | none => .error .overwritten
      | some members =>
        .ok { d with
          members
          pending := d.pending ++ ways
          frozen := if holdsOthers v then (d.header ++ k) :: d.frozen else d.frozen }

/-- Ends a section: the keys that it has opened cannot be opened again. -/
def endSection (d : Draft) : Draft :=
  { d with explicit := d.explicit ++ d.pending, pending := [] }

def openTable (d : Draft) (k : Key) : Except Fault Draft :=
  if d.explicit.contains k || isBelow d.frozen k then .error (.declaredTwice k)
  else match changeAt? true some k d.members with
    | none => .error .overwritten
    | some members => .ok { d with members, header := k, explicit := k :: d.explicit }

/-- Adds a table to the list under the last part of a key. -/
def appendTable (name : Text) (members : List (Text × Toml)) : Option (List (Text × Toml)) :=
  match lookup name members with
  | none => some (put name (.arr [.table []]) members)
  | some (.arr items) => some (put name (.arr (items ++ [.table []])) members)
  | some _ => none

def openItem (d : Draft) (k : Key) : Except Fault Draft :=
  if isBelow d.frozen k then .error (.immutable k)
  else match changeAt? true (appendTable (k.getLast?.getD [])) k.dropLast d.members with
    | none => .error .overwritten
    | some members =>
      .ok { d with
        members
        header := k
        explicit := k :: d.explicit.filter fun e => !k.isPrefixOf e
        frozen := d.frozen.filter fun f => !k.isPrefixOf f }

end Draft

/-- Reads a header behind its opening brackets, up to and including its closing ones. -/
def header (d : Draft) (change : Draft → Key → Except Fault Draft) (closing : Text) (fault : Fault)
    (s : Text) : Outcome Draft :=
  match key (skipSpace s) with
  | .error e => .error e
  | .ok (k, rest) =>
    match change d k with
    | .error f => .error (f, rest)
    | .ok d =>
      match Text.dropLead? closing rest with
      | none => .error (fault, rest)
      | some rest => .ok (d, rest)

def statement (depth : Nat) (d : Draft) (s : Text) : Outcome Draft :=
  match s with
  | [] => .ok (d, [])
  | '[' :: '[' :: t => header d.endSection Draft.openItem "]]" .arrayTableEnd t
  | '[' :: t => header d.endSection Draft.openTable "]" .tableEnd t
  | '#' :: _ => .ok (d, s)
  | c :: _ =>
    if isBareKeyChar c || c = '"' || c = '\'' then
      match pair (3 * s.length + 3) depth s with
      | .error e => .error e
      | .ok ((k, v), rest) =>
        match d.assign k v with
        | .error f => .error (f, rest)
        | .ok d => .ok (d, rest)
    else .error (.statement, s)

/-- Reads statements to the end of the document. -/
def statements (depth : Nat) : (fuel : Nat) → Draft → Text → Except (Fault × Text) Draft
  | 0, d, _ => .ok d
  | fuel + 1, d, s =>
    match skipSpace s with
    | [] => .ok d
    | '\n' :: t => statements depth fuel d t
    | t =>
      match statement depth d t with
      | .error e => .error e
      | .ok (d, rest) =>
        match skipComment (skipSpace rest) with
        | .error e => .error e
        | .ok [] => .ok d
        | .ok ('\n' :: t) => statements depth fuel d t
        | .ok t => .error (.statementEnd, t)

/-- Every carriage return before a line feed is dropped. -/
def joinBreaks : Text → Text
  | [] => []
  | '\r' :: '\n' :: s => '\n' :: joinBreaks s
  | c :: s => c :: joinBreaks s

/-- Where the rest of a document starts. -/
def placeShown (document rest : Text) : Text :=
  if rest.isEmpty then "end of document"
  else
    let before := document.take (document.length - rest.length)
    let column := (before.reverse.takeWhile (· != '\n')).length + 1
    "line " ++ Text.ofNat (before.count '\n' + 1) ++ ", column " ++ Text.ofNat column

/-- Reads a document: its table, or what is wrong with it. -/
def read (s : Text) (depth : Nat := usualDepth) : Reading (List (Text × Toml)) :=
  let document := joinBreaks s
  match statements depth (document.length + 1) {} document with
  | .ok d => .value d.members
  | .error (.broken breakdown, _) => .broken breakdown
  | .error (fault, rest) => .refused (fault.message ++ " (at " ++ placeShown document rest ++ ")")

end WebBaseline.Toml
