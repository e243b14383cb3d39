import WebBaseline.Text.Basic

/-!
UTF-8. `encode` writes a text, and `decode` reads bytes back and says where and why it stopped.
`decodeLossy` puts a replacement character in place of each unreadable stretch, and `decodeReadable`
leaves it out. `charsBefore` turns a byte offset into a character offset: the number of characters that
can be read before it.
-/

namespace WebBaseline.Text.Utf8

def encodeChar (c : Char) : List UInt8 :=
  String.utf8EncodeChar c

def encode (s : Text) : List UInt8 :=
  s.flatMap encodeChar

def byteSize : Text → Nat
  | [] => 0
  | c :: s => c.utf8Size + byteSize s

/-! ### Reading bytes -/

inductive Fault where
  | start
  | continuation
  | truncated
deriving DecidableEq, Repr

/-- The bounds of the second byte of a sequence with this first byte. -/
def secondBounds (first : Nat) : Nat × Nat :=
  if first = 0xE0 then (0xA0, 0xBF)
  else if first = 0xED then (0x80, 0x9F)
  else if first = 0xF0 then (0x90, 0xBF)
  else if first = 0xF4 then (0x80, 0x8F)
  else (0x80, 0xBF)

/-- The number of bytes that follow this first byte. -/
def trailing? (first : Nat) : Option Nat :=
  if first < 0x80 then some 0
  else if first < 0xC2 then none
  else if first < 0xE0 then some 1
  else if first < 0xF0 then some 2
  else if first < 0xF5 then some 3
  else none

def leadBits (first : Nat) : Nat :=
  if first < 0x80 then first
  else if first < 0xE0 then first % 0x20
  else if first < 0xF0 then first % 0x10
  else first % 0x08

/-- Reads the `need` continuation bytes that are left, the next of them within `bounds`. `value` holds
the bits and `taken` the number of bytes so far. The answer is the code point with its length, or the
fault with the length of the faulty stretch. -/
def continued (bounds : Nat × Nat) (value taken : Nat) :
    (need : Nat) → List UInt8 → Except (Fault × Nat) (Nat × Nat)
  | 0, _ => .ok (value, taken)
  | _ + 1, [] => .error (.truncated, taken)
  | need + 1, b :: bytes =>
    if bounds.1 ≤ b.toNat && b.toNat ≤ bounds.2 then
      continued (0x80, 0xBF) (value * 64 + b.toNat % 64) (taken + 1) need bytes
    else .error (.continuation, taken)

/-- Reads one character from the front of the bytes `b :: bytes`. -/
def readChar (b : UInt8) (bytes : List UInt8) : Except (Fault × Nat) (Nat × Nat) :=
  match trailing? b.toNat with
  | none => .error (.start, 1)
  | some need => continued (secondBounds b.toNat) (leadBits b.toNat) 1 need bytes

/-- A stretch of bytes that is no character: its first byte, its offset, its length and the fault. -/
structure DecodeError where
  first : UInt8
  offset : Nat
  length : Nat
  fault : Fault
deriving DecidableEq, Repr

/-- Reads bytes that stand at `offset`; `skip` bytes at their front belong to the last character. -/
def decodeFrom (offset skip : Nat) : List UInt8 → Except DecodeError Text
  | [] => .ok []
  | b :: bytes =>
    if 0 < skip then decodeFrom (offset + 1) (skip - 1) bytes
    else match readChar b bytes with
      | .error (fault, n) => .error ⟨b, offset, n, fault⟩
      | .ok (code, n) => (decodeFrom (offset + 1) (n - 1) bytes).map (Char.ofNat code :: ·)

def decode (bytes : List UInt8) : Except DecodeError Text :=
  decodeFrom 0 0 bytes

/-- As `decodeFrom`, with `filler` in place of each faulty stretch. -/
def decodeFilledFrom (filler : Text) (skip : Nat) : List UInt8 → Text
  | [] => []
  | b :: bytes =>
    if 0 < skip then decodeFilledFrom filler (skip - 1) bytes
    else match readChar b bytes with
      | .error (_, n) => filler ++ decodeFilledFrom filler (n - 1) bytes
      | .ok (code, n) => Char.ofNat code :: decodeFilledFrom filler (n - 1) bytes

/-- The text that the bytes encode, with a replacement character for each faulty stretch. -/
def decodeLossy (bytes : List UInt8) : Text :=
  decodeFilledFrom [Char.ofNat 0xFFFD] 0 bytes

/-- The text that the bytes encode, without the faulty stretches. -/
def decodeReadable (bytes : List UInt8) : Text :=
  decodeFilledFrom [] 0 bytes

/-- The number of characters before a byte offset. A negative offset counts from the end. A character
that the offset cuts in two does not count. -/
def charsBefore (bytes : List UInt8) (offset : Int) : Nat :=
  let stop := if offset < 0 then bytes.length + offset else offset
  (decodeReadable (bytes.take stop.toNat)).length

/-- The character offset of a byte offset into the encoded text. -/
def charOffset (s : Text) (offset : Int) : Nat :=
  charsBefore (encode s) offset

def Fault.message : Fault → Text
  | .start => "invalid start byte"
  | .continuation => "invalid continuation byte"
  | .truncated => "unexpected end of data"

def DecodeError.message (e : DecodeError) : Text :=
  let place : Text :=
    if e.length = 1 then
      "byte 0x" ++ hexPadded 2 e.first.toNat ++ " in position " ++ ofNat e.offset
    else "bytes in position " ++ ofNat e.offset ++ "-" ++ ofNat (e.offset + e.length - 1)
  "'utf-8' codec can't decode " ++ place ++ ": " ++ e.fault.message

end WebBaseline.Text.Utf8
