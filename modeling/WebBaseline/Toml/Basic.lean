import WebBaseline.Number.Double
import WebBaseline.Reading
import WebBaseline.Text.Quoted

/-!
TOML values, and how they are written in messages. A whole number that is too long cannot be written, and
neither can values that are nested too deep.
-/

namespace WebBaseline

structure Date where
  year : Nat
  month : Nat
  day : Nat
deriving DecidableEq, Repr

namespace Date

def isLeap (year : Nat) : Bool :=
  year % 4 = 0 && (year % 100 ≠ 0 || year % 400 = 0)

def monthLength (year month : Nat) : Nat :=
  if month = 2 then (if isLeap year then 29 else 28)
  else if [4, 6, 9, 11].contains month then 30
  else 31

def isValid (d : Date) : Bool :=
  1 ≤ d.year && 1 ≤ d.month && d.month ≤ 12 && 1 ≤ d.day && d.day ≤ monthLength d.year d.month

end Date

/-- A time of day, to the millionth of a second. -/
structure Time where
  hour : Nat
  minute : Nat
  second : Nat
  micro : Nat
deriving DecidableEq, Repr

/-- A TOML value. A date with a time may have an offset, in minutes. -/
inductive Toml where
  | bool (b : Bool)
  | int (n : Int)
  | real (x : Double)
  | str (s : Text)
  | date (d : Date)
  | time (t : Time)
  | moment (d : Date) (t : Time) (offset : Option Int)
  | arr (items : List Toml)
  | table (members : List (Text × Toml))

namespace Toml

def lookup (key : Text) : List (Text × Toml) → Option Toml
  | [] => none
  | (k, value) :: rest => if k = key then some value else lookup key rest

/-- Puts a value under a key: in the place of an earlier one, or at the end. -/
def put (key : Text) (value : Toml) : List (Text × Toml) → List (Text × Toml)
  | [] => [(key, value)]
  | (k, old) :: rest => if k = key then (k, value) :: rest else (k, old) :: put key value rest

def members? : Toml → Option (List (Text × Toml))
  | .table members => some members
  | _ => none

def str? : Toml → Option Text
  | .str s => some s
  | _ => none

/-! ### How values are written -/

def nestedTooDeep : Breakdown :=
  .nesting " while getting the repr of an object"

/-- Writes a value and those in it, which have one unit less of `depth`. -/
def inner (depth : Nat) (write : Nat → Except Breakdown Text) : Except Breakdown Text :=
  match depth with
  | 0 => .error nestedTooDeep
  | depth + 1 => write depth

/-- The parts of a time: seconds and their fractions are left out where they are zero. -/
def timeParts (t : Time) : List Text :=
  [Text.ofNat t.hour, Text.ofNat t.minute] ++
    if t.micro = 0 then (if t.second = 0 then [] else [Text.ofNat t.second])
    else [Text.ofNat t.second, Text.ofNat t.micro]

def dateParts (d : Date) : List Text :=
  [Text.ofNat d.year, Text.ofNat d.month, Text.ofNat d.day]

/-- An offset: a whole number of days, and seconds that are not negative. -/
def offsetShown (minutes : Int) : Text :=
  if minutes = 0 then "datetime.timezone.utc"
  else
    let seconds := minutes * 60
    let span : Text :=
      if 0 ≤ seconds then "seconds=" ++ Text.ofInt seconds
      else "days=-1, seconds=" ++ Text.ofInt (seconds + 86400)
    "datetime.timezone(datetime.timedelta(" ++ span ++ "))"

def zoneShown : Option Int → List Text
  | none => []
  | some minutes => ["tzinfo=" ++ offsetShown minutes]

/-- How deep the zone of a time is nested: it is a value, and so is the span in it. -/
def zoneDepth : Option Int → Nat
  | none => 0
  | some minutes => if minutes = 0 then 1 else 2

mutual

/-- How a value is written in a message, unless it cannot be. Each value uses one unit of `depth`. -/
def shown (depth : Nat) : Toml → Except Breakdown Text
  | .bool b => inner depth fun _ => .ok (if b then "True" else "False")
  | .int n => inner depth fun _ => if Text.isTooLong n then .error .digitsWritten else .ok (Text.ofInt n)
  | .real x => inner depth fun _ => .ok x.text
  | .str s => inner depth fun _ => .ok (Text.Quoted.encode s)
  | .date d => inner depth fun _ => .ok ("datetime.date(" ++ Text.join ", " (dateParts d) ++ ")")
  | .time t => inner depth fun _ => .ok ("datetime.time(" ++ Text.join ", " (timeParts t) ++ ")")
  | .moment d t offset => inner depth fun depth =>
    if depth < zoneDepth offset then .error nestedTooDeep
    else
      .ok ("datetime.datetime(" ++ Text.join ", " (dateParts d ++ timeParts t ++ zoneShown offset) ++ ")")
  | .arr items => inner depth fun depth => do
    return "[" ++ Text.join ", " (← itemsShown depth items) ++ "]"
  | .table members => inner depth fun depth => do
    return "\x7b" ++ Text.join ", " (← membersShown depth members) ++ "\x7d"

def itemsShown (depth : Nat) : List Toml → Except Breakdown (List Text)
  | [] => .ok []
  | item :: rest => do
    let text ← shown depth item
    return text :: (← itemsShown depth rest)

def membersShown (depth : Nat) : List (Text × Toml) → Except Breakdown (List Text)
  | [] => .ok []
  | (key, value) :: rest => do
    let text ← shown depth value
    return (Text.Quoted.encode key ++ ": " ++ text) :: (← membersShown depth rest)

end

end Toml

end WebBaseline
