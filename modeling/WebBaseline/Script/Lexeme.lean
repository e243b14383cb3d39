import WebBaseline.Text.Word

/-!
The lexemes of scripts. Each function gives the length of the lexeme of its class at the front of a
text, if there is one there; a lexeme is as long as its class allows.
-/

namespace WebBaseline.Script.Lexeme

/-! ### Gaps between lexemes -/

/-- The code points that separate lexemes, in increasing order. -/
def spaceRanges : List (Nat × Nat) := [
  (9, 13), (32, 32), (133, 133), (160, 160), (5760, 5760), (8192, 8203), (8232, 8233), (8239, 8239),
  (8287, 8288), (12288, 12288), (65279, 65279)]

def isSpace (c : Char) : Bool :=
  Text.Ranges.contains spaceRanges c.toNat

/-- The code points that are passed where the text ahead is looked at, in increasing order: white space
that may be broken. -/
def blankRanges : List (Nat × Nat) := [
  (9, 13), (32, 32), (5760, 5760), (8192, 8198), (8200, 8202), (8232, 8233), (8287, 8287),
  (12288, 12288)]

def isBlank (c : Char) : Bool :=
  Text.Ranges.contains blankRanges c.toNat

/-- A line feed, or one of the two separators of lines and paragraphs. -/
def isLineBreak (c : Char) : Bool :=
  c = '\n' || c.toNat = 0x2028 || c.toNat = 0x2029

def run (p : Char → Bool) (s : Text) : Nat :=
  (s.takeWhile p).length

def run? (p : Char → Bool) (s : Text) : Option Nat :=
  match run p s with
  | 0 => none
  | n => some n

/-- The length of a text up to and including the first `*/`. -/
def toCommentEnd? : Text → Option Nat
  | [] => none
  | '*' :: '/' :: _ => some 2
  | _ :: s => (toCommentEnd? s).map (· + 1)

def comment? : Text → Option Nat
  | '/' :: '/' :: s => some (run (fun c => c != '\r' && !isLineBreak c) s + 2)
  | '/' :: '*' :: s => (toCommentEnd? s).map (· + 2)
  | _ => none

/-- A comment in the manner of markup, to the end of the line, with the blanks before it. -/
def markupComment? (s : Text) : Option (Nat × Nat) :=
  let gap := run isBlank s
  let body := s.drop gap
  if Text.startsWith body "<!--" || Text.startsWith body "-->" then
    some (gap, run (fun c => !isLineBreak c) body)
  else none

/-! ### Names -/

def punctuation : Text :=
  ":;\"'@#.,|^&<=>+-*/\\%?!~()[]\x7b\x7d".toList ++ [Char.ofNat 96]

def isNamePart (c : Char) : Bool :=
  31 < c.toNat && !isSpace c && !punctuation.contains c

/-- The length of up to `least` and more hexadecimal digits. -/
def hexRun? (least : Nat) (s : Text) : Option Nat :=
  let n := run Text.isHexDigit s
  if least ≤ n then some n else none

/-- An escaped character of a name: four hexadecimal digits, or any number of them in braces. -/
def nameEscape? : Text → Option Nat
  | '\\' :: 'u' :: '\x7b' :: s =>
    (hexRun? 1 s).bind fun n => if (s.drop n).head? = some '\x7d' then some (n + 4) else none
  | '\\' :: 'u' :: s => (hexRun? 4 s).map fun _ => 6
  | _ => none

/-- The length of the parts of a name at the front of a text, behind `skip` characters of an escape. -/
def nameTail (skip : Nat) : Text → Nat
  | [] => 0
  | c :: s =>
    if 0 < skip then nameTail (skip - 1) s + 1
    else if isNamePart c then nameTail 0 s + 1
    else match nameEscape? (c :: s) with
      | some n => nameTail (n - 1) s + 1
      | none => 0

def name? (s : Text) : Option Nat :=
  match s with
  | [] => none
  | c :: _ =>
    if Text.isDigit c then none
    else match nameTail 0 s with
      | 0 => none
      | n => some n

def privateName? : Text → Option Nat
  | '#' :: s => (name? s).map (· + 1)
  | _ => none

/-! ### Numbers -/

/-- The digits behind a digit, each with at most one underscore before it. -/
def digitTail (p : Char → Bool) : Text → Nat
  | [] => 0
  | '_' :: c :: s => if p c then digitTail p s + 2 else 0
  | c :: s => if p c then digitTail p s + 1 else 0

def digits? (p : Char → Bool) : Text → Option Nat
  | [] => none
  | c :: s => if p c then some (digitTail p s + 1) else none

/-- The whole part of a decimal fraction: a zero alone, or digits with at most one zero in front. -/
def wholePart? : Text → Option Nat
  | '0' :: c :: s =>
    if Text.isDigit c && c != '0' then some (digitTail Text.isDigit s + 2) else some 1
  | ['0'] => some 1
  | s => digits? Text.isDigit s

def exponent? : Text → Option Nat
  | [] => none
  | c :: s =>
    if c = 'e' || c = 'E' then
      match s with
      | '+' :: t => (digits? Text.isDigit t).map (· + 2)
      | '-' :: t => (digits? Text.isDigit t).map (· + 2)
      | t => (digits? Text.isDigit t).map (· + 1)
    else none

/-- A length together with what stands behind it, if anything does. -/
def extended (part? : Text → Option Nat) (s : Text) (n : Nat) : Nat :=
  n + (part? (s.drop n)).getD 0

def bigMark? : Text → Option Nat
  | 'n' :: _ => some 1
  | _ => none

/-- A number with a base letter. -/
def based? : Text → Option Nat
  | '0' :: b :: s =>
    let digits :=
      if b = 'x' || b = 'X' then digits? Text.isHexDigit s
      else if b = 'o' || b = 'O' then digits? (fun c => '0' ≤ c && c ≤ '7') s
      else if b = 'b' || b = 'B' then digits? (fun c => c == '0' || c == '1') s
      else none
    digits.map fun n => extended bigMark? s n + 2
  | _ => none

/-- A decimal fraction, with a point before or behind its digits. -/
def fraction? (s : Text) : Option Nat :=
  match s with
  | '.' :: t => (digits? Text.isDigit t).map fun n => extended exponent? t n + 1
  | _ =>
    match wholePart? s with
    | none => none
    | some n =>
      match s.drop n with
      | '.' :: t => some (n + 1 + extended exponent? t ((digits? Text.isDigit t).getD 0))
      | t => (exponent? t).map (n + ·)

def number? (s : Text) : Option Nat :=
  let whole := (digits? Text.isDigit s).map fun n => extended bigMark? s n
  match [based? s, fraction? s, whole].filterMap id with
  | [] => none
  | n :: rest => some (rest.foldl max n)

/-! ### Strings, templates and patterns -/

/-- A stretch of a string between quotes, without escapes. -/
def fragment? (quote : Char) (s : Text) : Option Nat :=
  run? (fun c => c != quote && c != '\\' && c != '\r' && c != '\n') s

def escape? : Text → Option Nat
  | '\\' :: 'x' :: a :: b :: _ => if Text.isHexDigit a && Text.isHexDigit b then some 4 else none
  | '\\' :: 'u' :: s => nameEscape? ('\\' :: 'u' :: s)
  | '\\' :: '\r' :: c :: _ => if isLineBreak c then some 3 else some 2
  | '\\' :: '?' :: c :: _ => if isLineBreak c then some 3 else some 2
  | '\\' :: c :: s =>
    if c = 'x' then none
    else if '0' ≤ c && c ≤ '7' then
      some (min 3 (run (fun d => '0' ≤ d && d ≤ '7') (c :: s)) + 1)
    else some 2
  | _ => none

/-- Whether a stretch of a template ends before this text: at a backtick, an escape or a
substitution. -/
def endsTemplateText : Text → Bool
  | [] => false
  | '\\' :: _ => true
  | '$' :: '\x7b' :: _ => true
  | c :: _ => c.toNat = 96

/-- The length of a text up to where a stretch of a template ends. -/
def templateRun? : Text → Option Nat
  | [] => none
  | c :: s => if endsTemplateText (c :: s) then some 0 else (templateRun? s).map (· + 1)

/-- A stretch of a template, without escapes and substitutions. -/
def templateText? (s : Text) : Option Nat :=
  (templateRun? s).filter (0 < ·)

/-- The length of a bracketed class of a pattern, behind its opening bracket. -/
def classBody? : Text → Option Nat
  | [] => none
  | '\\' :: c :: s => if c = '\n' then none else (classBody? s).map (· + 2)
  | c :: s =>
    if c = '\n' || c = '\\' then none
    else if c = ']' then some 1
    else (classBody? s).map (· + 1)

/-- The length of a pattern between its slashes, behind `skip` characters of a class or an escape. -/
def patternRun (skip : Nat) : Text → Nat
  | [] => 0
  | c :: s =>
    if 0 < skip then patternRun (skip - 1) s + 1
    else if c = '/' || c = '\n' then 0
    else if c = '\\' then
      match s with
      | [] => 0
      | d :: _ => if d = '\n' then 0 else patternRun 1 s + 1
    else if c = '[' then
      match classBody? s with
      | none => 0
      | some n => patternRun n s + 1
    else patternRun 0 s + 1

def pattern? (s : Text) : Option Nat :=
  match patternRun 0 s with
  | 0 => none
  | n => some n

def flags? (s : Text) : Option Nat :=
  run? (fun c => 'a' ≤ c && c ≤ 'z') s

/-- The first line of a script that names its interpreter. -/
def interpreterLine? : Text → Option Nat
  | '#' :: '!' :: s => some (run (· != '\n') s + 2)
  | _ => none

/-! ### Elements -/

/-- The length of `least` to `most` characters that satisfy `p`, if a semicolon follows. -/
def referenceBody? (p : Char → Bool) (most : Nat) (s : Text) : Option Nat :=
  let n := run p s
  if 1 ≤ n && n ≤ most && (s.drop n).head? = some ';' then some (n + 1) else none

def reference? : Text → Option Nat
  | '&' :: '#' :: 'x' :: s => (referenceBody? Text.isHexDigit 6 s).map (· + 3)
  | '&' :: '#' :: 'X' :: s => (referenceBody? Text.isHexDigit 6 s).map (· + 3)
  | '&' :: '#' :: s => (referenceBody? Text.isDigit 5 s).map (· + 2)
  | '&' :: s => (referenceBody? Text.isLetter 30 s).map (· + 1)
  | _ => none

/-- The text between elements. Blank lines alone are none. -/
def elementText? (s : Text) : Option Nat :=
  let text := s.takeWhile fun c => !("<>\x7b\x7d&".toList.contains c)
  if text.isEmpty || (text.head? = some '\n' && text.all isBlank) then none else some text.length

/-- The length of an attribute's text up to the quote or a character reference. -/
def attributeRun (quote : Char) : Text → Nat
  | [] => 0
  | '&' :: c :: s => if c = '#' || Text.isLetter c then 0 else attributeRun quote s + 2
  | c :: s => if c = quote || c = '&' then 0 else attributeRun quote s + 1

def attributeText? (quote : Char) (s : Text) : Option Nat :=
  match attributeRun quote s with
  | 0 => none
  | n => some n

def isHyphenatedPart (c : Char) : Bool :=
  Text.isLetter c || Text.isDigit c || c = '_' || c = '$'

/-- A name with hyphens, as elements and attributes may have. -/
def hyphenated? (s : Text) : Option Nat :=
  let head := run isHyphenatedPart s
  if 0 < head && !(s.head?.map Text.isDigit).getD true && (s.drop head).head? = some '-' then
    some (run (fun c => isHyphenatedPart c || c = '-') s)
  else none

/-! ### Choices -/

/-- Whether a point at the front of a text, if there is one, starts a number. -/
def pointStartsNumber : Text → Bool
  | '.' :: s => (s.head?.map Text.isDigit).getD false
  | _ => true

/-- The question mark of a choice, with the blanks before it. Where types are written, no mark stands
before what ends an optional parameter. -/
def choiceMark? (typed : Bool) (s : Text) : Option Nat :=
  let gap := run isBlank s
  match s.drop gap with
  | '?' :: rest =>
    let behind := if typed then rest.dropWhile isBlank else rest
    let refused :=
      rest.head? = some '?' || (typed && rest.head? = some '.') ||
        (typed && (behind.head?.map (":),".toList.contains ·)).getD false)
    if !refused && pointStartsNumber behind then some gap else none
  | _ => none

/-! ### Class members -/

/-- The words `static get` where a line ends behind them: then the second one is no name. -/
def staticGetter? (s : Text) : Option Nat :=
  match Text.dropLead? "static".toList s with
  | none => none
  | some rest =>
    let gap := run isSpace rest
    match Text.dropLead? "get".toList (rest.drop gap) with
    | none => none
    | some behind =>
      let blank := behind.takeWhile isSpace
      let lines := (blank.reverse.dropWhile (· != '\n')).length
      if 0 < gap && 0 < lines then some (9 + gap + lines) else none

end WebBaseline.Script.Lexeme
