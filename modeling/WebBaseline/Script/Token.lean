import WebBaseline.Script.Dialect
import WebBaseline.Script.LineEnd

/-!
The tokens of scripts. What is read at a place depends on the tokens that are expected there: a slash may
start a pattern or divide, a line may end or go on, a word may be a name. `read?` tries the tokens that
only the context tells first, and then takes the longest token of the expected classes.
-/

namespace WebBaseline.Script

inductive Quote where
  | single
  | double
deriving DecidableEq, Hashable, Repr

def Quote.char : Quote → Char
  | single => '\''
  | double => '"'

/-- A token, by its class. -/
inductive Token where
  /-- The end of the script. -/
  | scriptEnd
  /-- A sign or a word of the language, as it is written. -/
  | mark (text : String)
  | name
  /-- A name that may be a reserved word. It is expected beside `name` and never read. -/
  | anyName
  | privateName
  | number
  /-- A stretch of a string. -/
  | fragment (quote : Quote)
  | escape
  /-- A stretch of a template. -/
  | templateText
  /-- A pattern between its slashes. -/
  | pattern
  /-- The slash behind a pattern. -/
  | patternEnd
  | flags
  | interpreterLine
  /-- Text between elements. -/
  | elementText
  /-- A name with hyphens. -/
  | hyphenated
  /-- A character reference. -/
  | reference
  /-- A stretch of an attribute's text. -/
  | attributeText (quote : Quote)
  /-- The words `static get` at the end of a line. -/
  | staticGetter
  /-- The end of a statement without a semicolon. -/
  | lineEnd
  /-- The same behind the head of a function. -/
  | headEnd
  /-- The question mark of a choice. -/
  | choiceMark
  | comment
deriving DecidableEq, Hashable, Repr

/-- A token at a place: it starts behind `gap` characters. -/
structure Reading where
  token : Token
  gap : Nat
  length : Nat
  /-- Whether the token is a word that may also be read as a name. -/
  isWord : Bool := false
deriving Repr

namespace Reading

/-- The number of characters up to the end of the token. -/
def size (r : Reading) : Nat :=
  r.gap + r.length

end Reading

namespace Token

/-- The words that are no names in scripts without types. -/
def reserved : List String := [
  "break", "case", "catch", "class", "const", "continue", "debugger", "default", "delete", "do", "else",
  "export", "extends", "false", "finally", "for", "function", "if", "import", "in", "instanceof", "new",
  "null", "return", "super", "switch", "this", "throw", "true", "try", "typeof", "var", "void", "while",
  "with"]

/-- Whether reserved words are no names where these tokens are expected. -/
def reserves (d : Dialect) (expected : List Token) : Bool :=
  !d.typed && expected.contains .name && !expected.contains .anyName

/-- Whether `w` is a reserved word where these tokens are expected. -/
def isReserved (d : Dialect) (expected : List Token) (w : String) : Bool :=
  reserves d expected && reserved.contains w

def isWord : Token → Bool
  | mark text => text.toList.all Text.isLetter
  | _ => false

/-! ### Tokens that the context tells -/

/-- The mark of a choice at the front of a text. -/
def readChoice? (d : Dialect) (s : Text) : Option Reading :=
  (Lexeme.choiceMark? d.typed s).map fun gap => ⟨choiceMark, gap, 1, false⟩

/-- The end of a line, or else the mark of a choice at which the look for it stopped. -/
def readLineEnd? (d : Dialect) (expected : List Token) (s : Text) : Option Reading :=
  let found := LineEnd.look ⟨d.typed, expected.contains (mark "||"), expected.contains headEnd⟩ s
  if found.ends then some ⟨lineEnd, 0, 0, false⟩
  else if !found.commented && found.rest.head? = some '?' && expected.contains choiceMark then
    (readChoice? d found.rest).map fun r => { r with gap := s.length - found.rest.length }
  else none

def readMarkupComment? (s : Text) : Option Reading :=
  (Lexeme.markupComment? s).map fun (gap, length) => ⟨comment, gap, length, false⟩

/-- A token that only the context tells. -/
def readInContext? (d : Dialect) (expected : List Token) (s : Text) : Option Reading :=
  let ends := expected.contains lineEnd
  if expected.contains templateText then
    if ends then none else (Lexeme.templateText? s).map fun n => ⟨templateText, 0, n, false⟩
  else
    let text := if expected.contains elementText then Lexeme.elementText? s else none
    match text with
    | some n => some ⟨elementText, 0, n, false⟩
    | none =>
      if ends || expected.contains headEnd then readLineEnd? d expected s
      else if expected.contains choiceMark then readChoice? d s
      else if [mark "||", escape, pattern].any expected.contains then none
      else readMarkupComment? s

/-! ### Tokens by their classes -/

/-- The length of a token of this class at the front of a text. -/
def length? : Token → Text → Option Nat
  | mark text, s => if Text.startsWith s text then some text.length else none
  | name, s => Lexeme.name? s
  | privateName, s => Lexeme.privateName? s
  | number, s => Lexeme.number? s
  | fragment quote, s => Lexeme.fragment? quote.char s
  | escape, s => Lexeme.escape? s
  | pattern, s => Lexeme.pattern? s
  | patternEnd, s => if s.head? = some '/' then some 1 else none
  | flags, s => Lexeme.flags? s
  | interpreterLine, s => Lexeme.interpreterLine? s
  | hyphenated, s => Lexeme.hyphenated? s
  | reference, s => Lexeme.reference? s
  | attributeText quote, s => Lexeme.attributeText? quote.char s
  | staticGetter, s => Lexeme.staticGetter? s
  | comment, s => Lexeme.comment? s
  | _, _ => none

def isDirect : Token → Bool
  | fragment _ => true
  | attributeText _ => true
  | pattern => true
  | patternEnd => true
  | escape => true
  | flags => true
  | _ => false

/-- The preference among tokens of one length: signs, then what is read directly, then the rest. -/
def preference : Token → Nat
  | mark _ => 2
  | escape => 1
  | flags => 1
  | _ => 0

def readClass? (s : Text) (gap : Nat) (t : Token) : Option Reading :=
  if t.isDirect then (t.length? s).map fun n => ⟨t, 0, n, false⟩
  else (t.length? (s.drop gap)).map fun n => ⟨t, gap, n, false⟩

/-- The better of two readings: the longer one, then the preferred one, then the first one. -/
def better (best : Option Reading) (r : Reading) : Option Reading :=
  match best with
  | none => some r
  | some b =>
    if b.size < r.size || (b.size = r.size && b.token.preference < r.token.preference) then some r
    else some b

/-- The longest token of the classes that are expected. A name is read also where only words are
expected. -/
def readLongest? (expected : List Token) (s : Text) (gap : Nat) : Option Reading :=
  let classes := comment :: expected.filter fun t => !t.isWord
  let best := (classes.filterMap (readClass? s gap)).foldl better none
  if expected.any isWord && !expected.contains name then
    match readClass? s gap name with
    | some r =>
      match best with
      | some b => if b.size < r.size then some r else some b
      | none => some r
    | none => best
  else best

/-- A token that is read before all others where it is expected: the stretches of strings and
attributes, a pattern that no comment stands before, and the end of one. -/
def readFirst? (expected : List Token) (s : Text) (gap : Nat) : Option Reading :=
  let stretches := [fragment .double, fragment .single, attributeText .double, attributeText .single]
  let read (t : Token) := if expected.contains t then readClass? s gap t else none
  let inPattern :=
    if expected.contains pattern then readClass? s gap comment <|> readClass? s gap pattern else none
  stretches.findSome? read <|> inPattern <|> read patternEnd

/-- A name that is a word of the language is read as that word where the word is expected or
reserved. -/
def settleWord (d : Dialect) (expected : List Token) (s : Text) (r : Reading) : Reading :=
  if r.token = name then
    let word := String.ofList ((s.drop r.gap).take r.length)
    if expected.contains (mark word) || isReserved d expected word then
      { r with token := mark word, isWord := true }
    else r
  else r

/-- The token at the front of a text where these tokens are expected. A control character of code zero
ends the text for the tokens that only the context tells. -/
def read? (d : Dialect) (expected : List Token) (s : Text) : Option Reading :=
  let gap := Lexeme.run Lexeme.isSpace s
  readInContext? d expected (s.takeWhile fun c => c.toNat != 0) <|>
    match readFirst? expected s gap <|> readLongest? expected s gap with
    | some r => some (settleWord d expected s r)
    | none => if s.length ≤ gap then some ⟨scriptEnd, gap, 0, false⟩ else none

end Token

end WebBaseline.Script
