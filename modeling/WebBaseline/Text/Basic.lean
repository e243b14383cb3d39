/-!
Texts are lists of code points, so every column, offset and length counts code points. Fixed wording
is written as a string literal and read as the text of its characters.
-/

namespace WebBaseline

/-- A text: its code points in order. -/
abbrev Text := List Char

instance : Coe String Text := ⟨String.toList⟩

namespace Text

/-- The rest of `s` behind `lead`, if `s` starts with `lead`. -/
def dropLead? : (lead s : Text) → Option Text
  | [], s => some s
  | _ :: _, [] => none
  | a :: lead, b :: s => if a = b then dropLead? lead s else none

def startsWith (s lead : Text) : Bool :=
  (dropLead? lead s).isSome

def endsWith (s tail : Text) : Bool :=
  startsWith s.reverse tail.reverse

/-- The offset of the first occurrence of `part` in `s`. -/
def find? (part : Text) : Text → Option Nat
  | [] => if part.isEmpty then some 0 else none
  | c :: s => if startsWith (c :: s) part then some 0 else (find? part s).map (· + 1)

/-- What stands before and behind the first occurrence of `mark` in `s`. -/
def cutAt? (mark : Text) (s : Text) : Option (Text × Text) :=
  (find? mark s).map fun i => (s.take i, s.drop (i + mark.length))

/-- The pieces of `s` between the characters that satisfy `p`; there is one more piece than there are
such characters. -/
def splitBy (p : Char → Bool) : Text → List Text
  | [] => [[]]
  | c :: s =>
    if p c then [] :: splitBy p s
    else match splitBy p s with
      | [] => [[c]]
      | piece :: pieces => (c :: piece) :: pieces

/-- The pieces of `s` between the occurrences of the character `sep`. -/
def splitOn (sep : Char) (s : Text) : List Text :=
  splitBy (· == sep) s

def join (sep : Text) : List Text → Text
  | [] => []
  | [s] => s
  | s :: rest => s ++ sep ++ join sep rest

def ofNat (n : Nat) : Text :=
  (toString n).toList

/-- The decimal digits of `n`, behind a minus sign if it is negative. -/
def ofInt (n : Int) : Text :=
  if n < 0 then '-' :: ofNat n.natAbs else ofNat n.natAbs

/-- The value of a run of decimal digits, read behind the value `acc`. -/
def digitsValue (acc : Nat) (digits : Text) : Nat :=
  digits.foldl (fun n c => n * 10 + (c.toNat - '0'.toNat)) acc

def isDigit (c : Char) : Bool :=
  '0' ≤ c && c ≤ '9'

/-- An ASCII letter. -/
def isLetter (c : Char) : Bool :=
  ('a' ≤ c && c ≤ 'z') || ('A' ≤ c && c ≤ 'Z')

def isHexDigit (c : Char) : Bool :=
  isDigit c || ('a' ≤ c && c ≤ 'f') || ('A' ≤ c && c ≤ 'F')

def hexDigit (c : Char) : Nat :=
  if isDigit c then c.toNat - '0'.toNat
  else if 'a' ≤ c && c ≤ 'f' then c.toNat - 'a'.toNat + 10
  else c.toNat - 'A'.toNat + 10

def hexValue (digits : Text) : Nat :=
  digits.foldl (fun n c => n * 16 + hexDigit c) 0

/-- The lower-case hexadecimal digits of `n`, filled with zeros on the left to `width`. -/
def hexPadded (width n : Nat) : Text :=
  let digits := Nat.toDigits 16 n
  List.replicate (width - digits.length) '0' ++ digits

/-- The decimal digits of `n`, filled with zeros on the left to `width`. -/
def decimalPadded (width n : Nat) : Text :=
  let digits := ofNat n
  List.replicate (width - digits.length) '0' ++ digits

/-- ASCII lower case; other characters stay as they are. -/
def asciiLower (s : Text) : Text :=
  s.map Char.toLower

end Text

end WebBaseline
