import WebBaseline.Text.Utf8

/-!
Encodings of transmitted documents. A document without further notice is UTF-8, UTF-16 or UTF-32; a
byte order mark or the place of its zero bytes tells which. A surrogate that stands alone is let pass in
each of them, and becomes the replacement character.
-/

namespace WebBaseline.Text

inductive ByteOrder where
  | big
  | little
deriving DecidableEq, Repr

inductive Encoding where
  | utf8
  | utf16 (order : ByteOrder)
  | utf32 (order : ByteOrder)
deriving DecidableEq, Repr

namespace Encoding

/-- The encoding of a document, and its bytes behind a byte order mark. -/
def detect : List UInt8 → Encoding × List UInt8
  | 0 :: 0 :: 0xFE :: 0xFF :: rest => (.utf32 .big, rest)
  | 0xFF :: 0xFE :: 0 :: 0 :: rest => (.utf32 .little, rest)
  | 0xFE :: 0xFF :: rest => (.utf16 .big, rest)
  | 0xFF :: 0xFE :: rest => (.utf16 .little, rest)
  | 0xEF :: 0xBB :: 0xBF :: rest => (.utf8, rest)
  | bytes =>
    let encoding : Encoding := match bytes with
      | [0, _] => .utf16 .big
      | [_, 0] => .utf16 .little
      | 0 :: b :: _ :: _ :: _ => if b = 0 then .utf32 .big else .utf16 .big
      | _ :: 0 :: c :: d :: _ => if c = 0 && d = 0 then .utf32 .little else .utf16 .little
      | _ => .utf8
    (encoding, bytes)

def unit16 (order : ByteOrder) (a b : UInt8) : Nat :=
  match order with
  | .big => a.toNat * 256 + b.toNat
  | .little => b.toNat * 256 + a.toNat

/-- The 16-bit units of a document; none if a byte is left over. -/
def units16? (order : ByteOrder) : List UInt8 → Option (List Nat)
  | [] => some []
  | [_] => none
  | a :: b :: rest => (units16? order rest).map (unit16 order a b :: ·)

/-- Joins each pair of surrogates to one code point. -/
def joinSurrogates : List Nat → List Nat
  | hi :: lo :: rest =>
    if 0xD800 ≤ hi && hi < 0xDC00 && 0xDC00 ≤ lo && lo < 0xE000 then
      (0x10000 + (hi - 0xD800) * 0x400 + (lo - 0xDC00)) :: joinSurrogates rest
    else hi :: joinSurrogates (lo :: rest)
  | units => units

/-- The 32-bit units of a document; none if bytes are left over or a unit is no code point. -/
def units32? (order : ByteOrder) : List UInt8 → Option (List Nat)
  | [] => some []
  | a :: b :: c :: d :: rest =>
    let unit := match order with
      | .big => unit16 .big a b * 65536 + unit16 .big c d
      | .little => unit16 .little c d * 65536 + unit16 .little a b
    if unit < 0x110000 then (units32? order rest).map (unit :: ·) else none
  | _ => none

def charOfUnit (n : Nat) : Char :=
  if n.isValidChar then Char.ofNat n else Char.ofNat 0xFFFD

/-- Puts the three bytes of the replacement character in the place of those of each surrogate. -/
def replaceSurrogates : List UInt8 → List UInt8
  | 0xED :: b :: c :: rest =>
    if 0xA0 ≤ b && b < 0xC0 && 0x80 ≤ c && c < 0xC0 then 0xEF :: 0xBF :: 0xBD :: replaceSurrogates rest
    else 0xED :: replaceSurrogates (b :: c :: rest)
  | b :: rest => b :: replaceSurrogates rest
  | [] => []

def decode? (bytes : List UInt8) : Option Text :=
  match detect bytes with
  | (.utf8, rest) => (Utf8.decode (replaceSurrogates rest)).toOption
  | (.utf16 order, rest) =>
    (units16? order rest).map fun units => (joinSurrogates units).map charOfUnit
  | (.utf32 order, rest) => (units32? order rest).map (·.map charOfUnit)

end Encoding

end WebBaseline.Text
