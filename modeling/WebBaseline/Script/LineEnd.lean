import WebBaseline.Script.Lexeme

/-!
The end of a statement at the end of a line. A semicolon may be left out before a closing brace, at the
end of the script, and at a line break unless the next line can only continue the statement. What counts
as a continuation depends on what may follow at the place: behind an operand, an opening bracket on the
next line is a call or a subscript. A look ahead also tells where it stopped, because a question mark
there may be the mark of a choice.
-/

namespace WebBaseline.Script.LineEnd

/-- Where a statement may end. -/
structure Place where
  /-- Whether types may be written. -/
  typed : Bool
  /-- Whether an operator may follow. -/
  operand : Bool
  /-- Whether a body may follow, as behind the head of a function. -/
  head : Bool
deriving DecidableEq, Repr

structure Look where
  /-- Whether a statement may end where the look started. -/
  ends : Bool
  /-- Whether the look passed a comment. -/
  commented : Bool
  /-- The text at which the look stopped. -/
  rest : Text
deriving Repr

def isLetter (c : Char) : Bool :=
  Text.isWord c && !Text.isDigit c && c != '_'

def breaksLine (p : Place) (c : Char) : Bool :=
  if p.typed then c = '\n' else Lexeme.isLineBreak c

/-- A comment that a look ahead passes. -/
structure Passed where
  length : Nat
  /-- Whether it goes to the end of its line. -/
  toLineEnd : Bool
  /-- Whether its end is in the script. -/
  closed : Bool

/-- The comment at the front of a text. A block comment that is not closed takes all the rest. -/
def passed? (p : Place) : Text → Option Passed
  | '/' :: '/' :: s => some ⟨Lexeme.run (fun c => !breaksLine p c) s + 2, true, true⟩
  | '/' :: '*' :: s =>
    match Lexeme.toCommentEnd? s with
    | some n => some ⟨n + 2, false, true⟩
    | none => some ⟨s.length + 2, false, false⟩
  | _ => none

/-! ### Behind a line break -/

/-- Whether a statement ends before a next line that starts with `i` and this text. The words `in` and
`instanceof` go on with the statement. -/
def beforeWord : Text → Bool × Text
  | 'n' :: s =>
    if !(s.head?.map isLetter).getD false then (false, s)
    else match Text.dropLead? "stanceof" s with
      | none => (true, s)
      | some rest => ((rest.head?.map isLetter).getD false, rest)
  | s => (true, s)

/-- Whether a statement ends before a next line that starts with this text, and where that is seen. -/
def before (p : Place) : Text → Bool × Text
  | [] => (true, [])
  | c :: s =>
    if c = '.' && !p.typed then ((s.head?.map Text.isDigit).getD false, s)
    else if c = '+' || c = '-' then (s.head? = some c, s)
    else if c = '!' then (s.head? != some '=', s)
    else if c = 'i' then beforeWord s
    else if c = '(' || c = '[' then (p.typed && !p.operand, c :: s)
    else if c = '\x7b' then (!p.head, c :: s)
    else (!(".,:;*%><=?^|&/`".toList.contains c), c :: s)

/-- A look at the next line that is not empty, behind `skip` characters of a comment. A slash that starts
no comment goes on with the statement. -/
def lookBeyond (p : Place) (commented : Bool) : (skip : Nat) → Text → Look
  | _, [] => ⟨true, commented, []⟩
  | skip + 1, _ :: s => lookBeyond p commented skip s
  | 0, c :: s =>
    if Lexeme.isBlank c then lookBeyond p commented 0 s
    else if c = '/' then
      match passed? p (c :: s) with
      | some comment => lookBeyond p (commented || comment.toLineEnd || !p.typed) (comment.length - 1) s
      | none => ⟨false, commented, s⟩
    else match before p (c :: s) with
      | (ends, rest) => ⟨ends, commented, rest⟩

/-! ### On the line -/

/-- What a look has passed on its way, blanks apart, and whether a line break was in it. -/
inductive Way where
  | clear
  /-- A comment, and perhaps blanks behind it. -/
  | comment (broken : Bool)
  /-- A block comment right before. -/
  | block (broken : Bool)
deriving DecidableEq, Repr

def Way.broken : Way → Bool
  | clear => false
  | comment broken => broken
  | block broken => broken

/-- Whether what was passed ends a statement that no operator can continue: a comment to the end of its
line does, and a block comment over several lines. -/
def Way.ends (p : Place) : Way → Bool
  | clear => false
  | comment _ => !p.operand
  | block broken => broken && !p.operand

def Way.pass (w : Way) (comment : Passed) (text : Text) : Way :=
  if comment.toLineEnd then .comment w.broken
  else
    let broken := w.broken || text.any Lexeme.isLineBreak
    if comment.closed then .block broken else .comment broken

/-- Whether a statement may end before a closing brace with `s` behind it. Where types are written, a
brace before a colon closes a pattern. -/
def beforeBrace (p : Place) (s : Text) : Bool :=
  !p.typed || (s.dropWhile Lexeme.isBlank).head? != some ':' || p.operand

/-- A look from a place on a line, behind `skip` characters of a comment. Comments are looked through
where no types are written. -/
def lookFrom (p : Place) (way : Way) (commented : Bool) : (skip : Nat) → Text → Look
  | _, [] => ⟨way = .clear || way.ends p, commented, []⟩
  | skip + 1, _ :: s => lookFrom p way commented skip s
  | 0, c :: s =>
    if c = '/' && !p.typed then
      match passed? p (c :: s) with
      | none => ⟨false, commented, s⟩
      | some comment =>
        lookFrom p (way.pass comment ((c :: s).take comment.length)) true (comment.length - 1) s
    else if way matches .comment _ && Lexeme.isBlank c then lookFrom p way commented 0 s
    else if way.ends p && c != ',' && c != '=' then ⟨true, commented, c :: s⟩
    else if c = '\x7d' then ⟨beforeBrace p s, commented, s⟩
    else if breaksLine p c then lookBeyond p commented 0 s
    else if Lexeme.isBlank c then lookFrom p .clear commented 0 s
    else ⟨false, commented, c :: s⟩

def look (p : Place) (s : Text) : Look :=
  lookFrom p .clear false 0 s

end WebBaseline.Script.LineEnd
