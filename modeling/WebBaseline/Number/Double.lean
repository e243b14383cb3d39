import WebBaseline.Text.Basic

/-!
Double-precision numbers, exactly: a finite one is a whole number times a power of two. `ofDecimal`
rounds a decimal to the nearest double, a half going to the even neighbour. `digits` gives the fewest
decimal digits that read back as the same number, and of those the nearest; `text` writes them.
-/

namespace WebBaseline

/-- A double-precision number; `finite s m q` is `m · 2 ^ q`, negated if `s` holds. -/
inductive Double where
  | finite (negative : Bool) (m : Nat) (q : Int)
  | infinite (negative : Bool)
  | nan
deriving DecidableEq, Repr

namespace Double

/-- The quotient rounded to the nearest whole number, a half to the even neighbour. -/
def roundDiv (num den : Nat) : Nat :=
  let q := num / den
  let r := num % den
  if 2 * r < den then q else if den < 2 * r then q + 1 else q + q % 2

/-- `num / den · 2 ^ (-q)` as numerator and denominator. -/
def scaleDown (num den : Nat) (q : Int) : Nat × Nat :=
  if q < 0 then (num * Nat.pow 2 (-q).toNat, den) else (num, den * Nat.pow 2 q.toNat)

/-- The double nearest to `num / den`. -/
def ofQuotient (negative : Bool) (num den : Nat) : Double :=
  if num = 0 then .finite negative 0 0
  else
    let guess : Int := (Nat.log2 num : Int) - Nat.log2 den - 53
    let (n, d) := scaleDown num den guess
    let q := max (if Nat.pow 2 53 ≤ n / d then guess + 1 else guess) (-1074)
    let (n, d) := scaleDown num den q
    let m := roundDiv n d
    let (m, q) := if m = Nat.pow 2 53 then (Nat.pow 2 52, q + 1) else (m, q)
    if 971 < q then .infinite negative else .finite negative m q

/-- The double nearest to `n · 10 ^ e`. -/
def ofDecimal (negative : Bool) (n : Nat) (e : Int) : Double :=
  let size : Int := (toString n).length + e
  if n = 0 then .finite negative 0 0
  else if 310 < size then .infinite negative
  else if size < -330 then .finite negative 0 0
  else if e < 0 then ofQuotient negative n (Nat.pow 10 (-e).toNat)
  else ofQuotient negative (n * Nat.pow 10 e.toNat) 1

/-! ### The shortest digits that read back -/

/-- The numbers `n / d` that read back as one double lie between `low / d` and `high / d`; the ends
count if `closed` holds. -/
structure Interval where
  low : Nat
  value : Nat
  high : Nat
  den : Nat
  closed : Bool

/-- The interval of the double `m · 2 ^ q`, which reaches half way to its neighbours. -/
def interval (m : Nat) (q : Int) : Interval :=
  let low := if m = Nat.pow 2 52 && -1074 < q then 4 * m - 1 else 4 * m - 2
  let (num, den) := if q < 2 then (1, Nat.pow 2 (2 - q).toNat) else (Nat.pow 2 (q - 2).toNat, 1)
  ⟨low * num, 4 * m * num, (4 * m + 2) * num, den, m % 2 == 0⟩

/-- The interval in units of `10 ^ e`. -/
def Interval.inUnits (i : Interval) (e : Int) : Interval :=
  if e < 0 then
    let f := Nat.pow 10 (-e).toNat
    ⟨i.low * f, i.value * f, i.high * f, i.den, i.closed⟩
  else ⟨i.low, i.value, i.high, i.den * Nat.pow 10 e.toNat, i.closed⟩

def Interval.holds (i : Interval) (c : Nat) : Bool :=
  if i.closed then i.low ≤ c * i.den && c * i.den ≤ i.high
  else i.low < c * i.den && c * i.den < i.high

/-- The whole number in the interval that is nearest to its value, if there is one. -/
def Interval.nearest? (i : Interval) : Option Nat :=
  let below := i.value / i.den
  match i.holds below, i.holds (below + 1) with
  | true, true => some (roundDiv i.value i.den)
  | true, false => some below
  | false, true => some (below + 1)
  | false, false => none

/-- The decimal point of a positive number: the least `p` with `value < 10 ^ p`, found from the guess
downwards with at most `fuel` steps. -/
def pointFrom (i : Interval) : (fuel : Nat) → Int → Int
  | 0, p => p
  | fuel + 1, p =>
    let below := i.inUnits (p - 1)
    if below.value < below.den then pointFrom i fuel (p - 1) else p

/-- The least `p` with `m · 2 ^ q < 10 ^ p`. -/
def point (m : Nat) (q : Int) : Int :=
  pointFrom (interval m q) 8 (((Nat.log2 m : Int) + q + 1) * 30103 / 100000 + 3)

/-- Searches grids of `k`, `k + 1`, … digits, `fuel` of them. -/
def digitsFrom (i : Interval) (p : Int) : (fuel k : Nat) → Nat × Int
  | 0, k => (i.value / i.den, p - k)
  | fuel + 1, k =>
    match (i.inUnits (p - k)).nearest? with
    | some c => (c, p - k)
    | none => digitsFrom i p fuel (k + 1)

/-- The shortest `c` and the `e` with `c · 10 ^ e` reading back as `m · 2 ^ q`. -/
def digits (m : Nat) (q : Int) : Nat × Int :=
  digitsFrom (interval m q) (point m q) 17 1

/-! ### Writing -/

/-- Drops the zeros at the end of `c`, raising the exponent. -/
def dropZeros : (fuel : Nat) → Nat → Int → Nat × Int
  | 0, c, e => (c, e)
  | fuel + 1, c, e => if c % 10 = 0 && 0 < c then dropZeros fuel (c / 10) (e + 1) else (c, e)

/-- Digits with their point at `p`: written out where the point lies within 16 digits and at most
three zeros follow it, and otherwise with an exponent of at least two digits. -/
def layout (ds : Text) (p : Int) : Text :=
  if -4 < p && p ≤ 16 then
    if p ≤ 0 then "0." ++ List.replicate (-p).toNat '0' ++ ds
    else
      let n := p.toNat
      let front := ds.take n ++ List.replicate (n - ds.length) '0'
      let back := ds.drop n
      front ++ "." ++ (if back.isEmpty then ['0'] else back)
  else
    let tail := ds.drop 1
    let e := p - 1
    ds.take 1 ++ (if tail.isEmpty then [] else '.' :: tail) ++ "e" ++
      (if e < 0 then "-" else "+") ++ Text.decimalPadded 2 e.natAbs

/-- The text of a number: the fewest digits that read back, always with a point or an exponent. -/
def text : Double → Text
  | .nan => "nan"
  | .infinite s => (if s then "-" else "") ++ ("inf" : Text)
  | .finite s m q =>
    (if s then "-" else "") ++
      if m = 0 then ("0.0" : Text)
      else
        let (c, e) := digits m q
        let (c, e) := dropZeros 20 c e
        let ds := Text.ofNat c
        layout ds (ds.length + e)

end Double

end WebBaseline
