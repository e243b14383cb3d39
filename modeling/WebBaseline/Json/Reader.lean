import WebBaseline.Json.Basic
import WebBaseline.Reading

/-!
Reading JSON documents. Beyond the standard, `NaN`, `Infinity` and `-Infinity` are numbers. The first
fault from the left decides the error. Texts hold no surrogates, so that a lone one is read as the
replacement character.
-/

namespace WebBaseline.Json

inductive ReadError where
  | value
  | name
  | comma
  | colon
  | extra
  | unterminated
  | control
  | escape
  | codePoint
  | byteOrderMark
  /-- The reader gives up on a document that may be right. -/
  | broken (breakdown : Breakdown)
deriving DecidableEq, Repr

def ReadError.message : ReadError → Text
  | .value => "Expecting value"
  | .name => "Expecting property name enclosed in double quotes"
  | .comma => "Expecting ',' delimiter"
  | .colon => "Expecting ':' delimiter"
  | .extra => "Extra data"
  | .unterminated => "Unterminated string starting at"
  | .control => "Invalid control character at"
  | .escape => "Invalid \\escape"
  | .codePoint => "Invalid \\uXXXX escape"
  | .byteOrderMark => "Unexpected UTF-8 BOM (decode using utf-8-sig)"
  | .broken breakdown => breakdown.message

def isSpace (c : Char) : Bool :=
  c == ' ' || c == '\t' || c == '\n' || c == '\r'

def skipSpace (s : Text) : Text :=
  s.dropWhile isSpace

/-! ### Strings -/

/-- The character that a one-letter escape stands for. -/
def escaped? : Char → Option Char
  | '"' => some '"'
  | '\\' => some '\\'
  | '/' => some '/'
  | 'b' => some (Char.ofNat 8)
  | 'f' => some (Char.ofNat 12)
  | 'n' => some '\n'
  | 'r' => some '\r'
  | 't' => some '\t'
  | _ => none

/-- The value of four hexadecimal digits in front of at least one more character. -/
def unit? : Text → Option (Nat × Text)
  | a :: b :: c :: d :: e :: rest =>
    if [a, b, c, d].all Text.isHexDigit then some (Text.hexValue [a, b, c, d], e :: rest) else none
  | _ => none

/-- A 16-bit unit as a character; half of a surrogate pair becomes the replacement character. -/
def unitChar (n : Nat) : Char :=
  if n.isValidChar then Char.ofNat n else Char.ofNat 0xFFFD

/-- Reads the digits of a `\u` escape, and the second half of a surrogate pair behind them. -/
def codePoint (s : Text) : Except ReadError (Char × Text) :=
  match unit? s with
  | none => .error .codePoint
  | some (hi, rest) =>
    if 0xD800 ≤ hi && hi < 0xDC00 then
      match rest with
      | '\\' :: 'u' :: more =>
        if more.length < 5 then .ok (unitChar hi, rest)
        else match unit? more with
          | none => .error .codePoint
          | some (lo, tail) =>
            if 0xDC00 ≤ lo && lo < 0xE000 then
              .ok (Char.ofNat (0x10000 + (hi - 0xD800) * 0x400 + (lo - 0xDC00)), tail)
            else .ok (unitChar hi, rest)
      | _ => .ok (unitChar hi, rest)
    else .ok (unitChar hi, rest)

/-- Reads a string behind its opening quote. Each step uses one unit of `fuel`. -/
def readString : (fuel : Nat) → Text → Except ReadError (Text × Text)
  | 0, _ => .error .unterminated
  | _ + 1, [] => .error .unterminated
  | _ + 1, '"' :: rest => .ok ([], rest)
  | _ + 1, ['\\'] => .error .unterminated
  | fuel + 1, '\\' :: 'u' :: rest => do
    let (c, rest) ← codePoint rest
    let (s, rest) ← readString fuel rest
    return (c :: s, rest)
  | fuel + 1, '\\' :: e :: rest =>
    match escaped? e with
    | none => .error .escape
    | some c => do
      let (s, rest) ← readString fuel rest
      return (c :: s, rest)
  | fuel + 1, c :: rest =>
    if c.toNat < 32 then .error .control
    else do
      let (s, rest) ← readString fuel rest
      return (c :: s, rest)

/-! ### Numbers -/

/-- The fraction behind a decimal point, if digits follow it. -/
def fraction? : Text → Option (Text × Text)
  | '.' :: rest =>
    let digits := rest.takeWhile Text.isDigit
    if digits.isEmpty then none else some (digits, rest.dropWhile Text.isDigit)
  | _ => none

/-- The exponent behind its mark, if digits follow it. -/
def exponent? : Text → Option (Int × Text)
  | mark :: rest =>
    if mark == 'e' || mark == 'E' then
      let (negative, rest) : Bool × Text := match rest with
        | '-' :: more => (true, more)
        | '+' :: more => (false, more)
        | _ => (false, rest)
      let digits := rest.takeWhile Text.isDigit
      if digits.isEmpty then none
      else
        let n : Int := Text.digitsValue 0 digits
        some (if negative then -n else n, rest.dropWhile Text.isDigit)
    else none
  | [] => none

/-- Reads a number without its sign. -/
def readNumber (negative : Bool) (s : Text) : Except ReadError (Json × Text) :=
  let whole : Text := match s with
    | '0' :: _ => ['0']
    | _ => s.takeWhile Text.isDigit
  if whole.isEmpty then .error .value
  else
    let rest := s.drop whole.length
    let (fraction, rest, broken) := match fraction? rest with
      | some (digits, rest) => (digits, rest, true)
      | none => ([], rest, false)
    let (e, rest, broken) := match exponent? rest with
      | some (e, rest) => (e, rest, true)
      | none => (0, rest, broken)
    if broken then
      .ok (.real (.ofDecimal negative (Text.digitsValue 0 (whole ++ fraction)) (e - fraction.length)),
        rest)
    else if Text.maxDigits < whole.length then .error (.broken (.digitsRead whole.length))
    else
      let n : Int := Text.digitsValue 0 whole
      .ok (.int (if negative then -n else n), rest)

/-! ### Values -/

/-- A value that is one fixed word. -/
def word? (s : Text) : Option (Json × Text) :=
  let words : List (String × Json) := [("null", .null), ("true", .bool true), ("false", .bool false),
    ("NaN", .real .nan), ("Infinity", .real (.infinite false)), ("-Infinity", .real (.infinite true))]
  words.findSome? fun (word, value) => (Text.dropLead? word s).map (value, ·)

/-- Values of a kind are nested too deep. -/
def tooDeep (kind : Text) : ReadError :=
  .broken (.nesting (" while decoding a JSON " ++ kind ++ " from a unicode string"))

mutual

/-- Reads a value at the front of the text. Each step into a value or its parts uses one unit of `fuel`, and
each array and object one unit of `depth`. -/
def readValue (fuel depth : Nat) (s : Text) : Except ReadError (Json × Text) :=
  match fuel, s with
  | 0, _ => .error .value
  | fuel + 1, s =>
    match word? s with
    | some found => .ok found
    | none =>
      match s, depth with
      | [], _ => .error .value
      | '"' :: rest, _ => do
        let (t, rest) ← readString (rest.length + 1) rest
        return (.str t, rest)
      | '[' :: _, 0 => .error (tooDeep "array")
      | '[' :: rest, depth + 1 =>
        match skipSpace rest with
        | ']' :: rest => .ok (.arr [], rest)
        | rest => do
          let (items, rest) ← readItems fuel depth rest
          return (.arr items, rest)
      | '{' :: _, 0 => .error (tooDeep "object")
      | '{' :: rest, depth + 1 =>
        match skipSpace rest with
        | '}' :: rest => .ok (.obj [], rest)
        | rest => do
          let (members, rest) ← readMembers fuel depth [] rest
          return (.obj members, rest)
      | '-' :: rest, _ => readNumber true rest
      | s, _ => readNumber false s

/-- Reads the items of an array up to its closing bracket. -/
def readItems (fuel depth : Nat) (s : Text) : Except ReadError (List Json × Text) :=
  match fuel with
  | 0 => .error .value
  | fuel + 1 => do
    let (item, rest) ← readValue fuel depth s
    match skipSpace rest with
    | ']' :: rest => return ([item], rest)
    | ',' :: rest =>
      let (items, rest) ← readItems fuel depth (skipSpace rest)
      return (item :: items, rest)
    | _ => throw .comma

/-- Reads the members of an object up to its closing brace, behind those read before. -/
def readMembers (fuel depth : Nat) (before : List (Text × Json)) (s : Text) :
    Except ReadError (List (Text × Json) × Text) :=
  match fuel with
  | 0 => .error .name
  | fuel + 1 =>
    match s with
    | '"' :: rest => do
      let (name, rest) ← readString (rest.length + 1) rest
      match skipSpace rest with
      | ':' :: rest =>
        let (value, rest) ← readValue fuel depth (skipSpace rest)
        let members := put name value before
        match skipSpace rest with
        | '}' :: rest => return (members, rest)
        | ',' :: rest => readMembers fuel depth members (skipSpace rest)
        | _ => throw .comma
      | _ => throw .colon
    | _ => .error .name

end

/-- Reads a whole document, in which only white space may stand around the value. -/
def read (s : Text) (depth : Nat := usualDepth) : Except ReadError Json :=
  match s with
  | '\ufeff' :: _ => .error .byteOrderMark
  | _ => do
    let (value, rest) ← readValue (2 * s.length + 2) depth (skipSpace s)
    match skipSpace rest with
    | [] => return value
    | _ => throw .extra

/-- What reading a document comes to. -/
def reading (s : Text) : Reading Json :=
  match read s with
  | .ok value => .value value
  | .error (.broken breakdown) => .broken breakdown
  | .error e => .refused e.message

end WebBaseline.Json
