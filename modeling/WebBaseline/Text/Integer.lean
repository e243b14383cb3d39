import WebBaseline.Text.Blank

/-!
Integers in texts: a sign and decimal digits, in the digits of any script. Blanks may stand around them,
and a single underscore between two digits.
-/

namespace WebBaseline.Text

/-- The zeros of the scripts that have digits of their own; the other digits follow them in order. -/
def zeros : List Nat := [
  48, 1632, 1776, 1984, 2406, 2534, 2662, 2790, 2918, 3046, 3174, 3302, 3430, 3558, 3664, 3792,
  3872, 4160, 4240, 6112, 6160, 6470, 6608, 6784, 6800, 6992, 7088, 7232, 7248, 42528, 43216, 43264,
  43472, 43504, 43600, 44016, 65296, 66720, 68912, 69734, 69872, 69942, 70096, 70384, 70736, 70864,
  71248, 71360, 71472, 71904, 72016, 72784, 73040, 73120, 92768, 92864, 93008, 120782, 120792,
  120802, 120812, 120822, 123200, 123632, 125264, 130032]

def digit? (c : Char) : Option Nat :=
  (zeros.find? fun first => first ≤ c.toNat && c.toNat ≤ first + 9).map (c.toNat - ·)

/-- The digits of a number, where an underscore may stand between two of them. `inner` says whether a
digit stands before. -/
def digits? (inner : Bool) : Text → Option (List Nat)
  | [] => if inner then some [] else none
  | c :: s =>
    if c = '_' then if inner then digits? false s else none
    else (digit? c).bind fun d => (digits? true s).map (d :: ·)

/-- The most digits that a number is read or written with. -/
def maxDigits : Nat := 4300

def nat? (s : Text) : Option Nat :=
  (digits? false s).bind fun ds =>
    if maxDigits < ds.length then none else some (ds.foldl (fun n d => 10 * n + d) 0)

/-- Whether a number has too many digits to be written. -/
def isTooLong (n : Int) : Bool :=
  Nat.pow 10 maxDigits ≤ n.natAbs

def int? (s : Text) : Option Int :=
  match strip s with
  | '-' :: rest => (nat? rest).map fun n => -(n : Int)
  | '+' :: rest => (nat? rest).map Int.ofNat
  | rest => (nat? rest).map Int.ofNat

end WebBaseline.Text
