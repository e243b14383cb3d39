import Mathlib.Tactic.SplitIfs
import WebBaseline.Proofs.Text.Slice
import WebBaseline.Text.Utf8

/-! Bytes and characters.

A character is written as a first byte, which tells how many bytes follow, and the bytes that follow
(`exists_encodeChar`). So it is read back whatever stands behind it, and where it is cut in two, what is
left of it is one faulty stretch (`readChar_append`, `readChar_take`). Hence the characters before a byte
offset are those whose bytes all stand before it (`charsBefore_encode`), and the bytes between two
boundaries are read as the characters between them (`decode_slice`). -/
namespace WebBaseline.Text.Utf8

/-! ### One character -/

/-- Bytes that may follow a first byte: the first of them within `bounds`, the later ones within the
usual bounds. -/
def Follows (bounds : Nat × Nat) : List UInt8 → Prop
  | [] => True
  | b :: rest => (bounds.1 ≤ b.toNat ∧ b.toNat ≤ bounds.2) ∧ Follows (0x80, 0xBF) rest

/-- The code point of a first byte with the bits `lead` and the bytes that follow. -/
def codeOf (lead : Nat) (tail : List UInt8) : Nat :=
  tail.foldl (fun value b => value * 64 + b.toNat % 64) lead

theorem continued_append {bounds : Nat × Nat} {tail : List UInt8} (h : Follows bounds tail)
    (value taken : Nat) (bytes : List UInt8) :
    continued bounds value taken tail.length (tail ++ bytes) =
      .ok (codeOf value tail, taken + tail.length) := by
  induction tail generalizing bounds value taken with
  | nil => rfl
  | cons b tail ih =>
    obtain ⟨hb, htail⟩ := h
    simp only [List.length_cons, List.cons_append, continued, hb, decide_true, Bool.and_self, if_true,
      ih htail]
    rw [Nat.add_right_comm]
    rfl

theorem continued_take {bounds : Nat × Nat} {tail : List UInt8} (h : Follows bounds tail)
    (value taken : Nat) {k : Nat} (hk : k < tail.length) :
    continued bounds value taken tail.length (tail.take k) = .error (.truncated, taken + k) := by
  induction tail generalizing bounds value taken k with
  | nil => cases hk
  | cons b tail ih =>
    obtain ⟨hb, htail⟩ := h
    cases k with
    | zero => rfl
    | succ k =>
      simp only [List.length_cons, List.take_succ_cons, continued, hb, decide_true, Bool.and_self,
        if_true, ih htail _ _ (Nat.lt_of_succ_lt_succ hk)]
      rw [Nat.add_right_comm]
      rfl

theorem toNat_ofNat {n : Nat} (h : n < 256) : (UInt8.ofNat n).toNat = n := by
  rw [UInt8.toNat_ofNat', Nat.mod_eq_of_lt h]

/-- The second byte lies within the usual bounds, and within closer ones behind four first bytes. -/
theorem within_secondBounds_iff (first b : Nat) :
    (secondBounds first).1 ≤ b ∧ b ≤ (secondBounds first).2 ↔
      (0x80 ≤ b ∧ b ≤ 0xBF) ∧ (first = 0xE0 → 0xA0 ≤ b) ∧ (first = 0xED → b ≤ 0x9F) ∧
        (first = 0xF0 → 0x90 ≤ b) ∧ (first = 0xF4 → b ≤ 0x8F) := by
  unfold secondBounds
  split_ifs <;> simp only <;> omega

/-- A character is written as a first byte and the bytes that it says follow. -/
theorem exists_encodeChar (c : Char) : ∃ b tail, encodeChar c = b :: tail ∧
    trailing? b.toNat = some tail.length ∧ Follows (secondBounds b.toNat) tail ∧
    codeOf (leadBits b.toNat) tail = c.toNat := by
  have hvalid : c.toNat < 0xD800 ∨ 0xDFFF < c.toNat ∧ c.toNat < 0x110000 := c.valid
  have hval : c.val.toNat = c.toNat := rfl
  unfold encodeChar String.utf8EncodeChar
  simp only [hval]
  generalize c.toNat = v at hvalid
  -- One case for each number of bytes. In each, the bounds of the second byte leave out what would be
  -- an overlong form, a surrogate or no code point at all.
  split_ifs
  all_goals
    refine ⟨_, _, rfl, ?_⟩
    simp (disch := omega) only [Follows, within_secondBounds_iff, codeOf, toNat_ofNat, trailing?,
      leadBits, if_pos, if_neg, List.length_cons, List.length_nil, List.foldl_cons, List.foldl_nil,
      true_and, and_true] <;> omega

theorem length_encodeChar (c : Char) : (encodeChar c).length = c.utf8Size :=
  String.length_utf8EncodeChar c

/-- A character is read back, whatever stands behind it. -/
theorem readChar_append {c : Char} {b : UInt8} {tail : List UInt8} (h : encodeChar c = b :: tail)
    (bytes : List UInt8) : readChar b (tail ++ bytes) = .ok (c.toNat, tail.length + 1) := by
  obtain ⟨b', tail', hc, hneed, hfollows, hcode⟩ := exists_encodeChar c
  obtain ⟨rfl, rfl⟩ := List.cons.inj (h.symm.trans hc)
  unfold readChar
  rw [hneed]
  simp only
  rw [continued_append hfollows, hcode, Nat.add_comm]

/-- What is left of a character that is cut in two is one faulty stretch. -/
theorem readChar_take {c : Char} {b : UInt8} {tail : List UInt8} (h : encodeChar c = b :: tail)
    {k : Nat} (hk : k < tail.length) : readChar b (tail.take k) = .error (.truncated, k + 1) := by
  obtain ⟨b', tail', hc, hneed, hfollows, -⟩ := exists_encodeChar c
  obtain ⟨rfl, rfl⟩ := List.cons.inj (h.symm.trans hc)
  unfold readChar
  rw [hneed]
  simp only
  rw [continued_take hfollows _ _ hk, Nat.add_comm]

/-! ### Whole texts -/

theorem decodeFilledFrom_skip (filler : Text) (tail bytes : List UInt8) :
    decodeFilledFrom filler tail.length (tail ++ bytes) = decodeFilledFrom filler 0 bytes := by
  induction tail with
  | nil => rfl
  | cons b tail ih => simpa [decodeFilledFrom] using ih

theorem decodeFrom_skip (offset : Nat) (tail bytes : List UInt8) :
    decodeFrom offset tail.length (tail ++ bytes) = decodeFrom (offset + tail.length) 0 bytes := by
  induction tail generalizing offset with
  | nil => rfl
  | cons b tail ih =>
    simp only [List.length_cons, List.cons_append, decodeFrom, Nat.zero_lt_succ, if_true,
      Nat.add_sub_cancel, ih]
    rw [Nat.add_right_comm, Nat.add_assoc]

theorem decodeFilledFrom_cons (filler : Text) (c : Char) (bytes : List UInt8) :
    decodeFilledFrom filler 0 (encodeChar c ++ bytes) = c :: decodeFilledFrom filler 0 bytes := by
  obtain ⟨b, tail, hc, -⟩ := exists_encodeChar c
  rw [hc, List.cons_append]
  simp [decodeFilledFrom, readChar_append hc, decodeFilledFrom_skip]

theorem decodeFrom_cons (offset : Nat) (c : Char) (bytes : List UInt8) :
    decodeFrom offset 0 (encodeChar c ++ bytes) =
      (decodeFrom (offset + c.utf8Size) 0 bytes).map (c :: ·) := by
  obtain ⟨b, tail, hc, -⟩ := exists_encodeChar c
  rw [← length_encodeChar, hc, List.cons_append, List.length_cons]
  simp [decodeFrom, readChar_append hc, decodeFrom_skip, Nat.add_right_comm, Nat.add_assoc]

/-- A cut in a character leaves a faulty stretch before it. -/
theorem decodeFilledFrom_take (filler : Text) {c : Char} {n : Nat} (h : n < c.utf8Size) :
    decodeFilledFrom filler 0 ((encodeChar c).take n) = if n = 0 then [] else filler := by
  obtain ⟨b, tail, hc, -⟩ := exists_encodeChar c
  rw [← length_encodeChar, hc, List.length_cons] at h
  rw [hc]
  cases n with
  | zero => rfl
  | succ k =>
    have hk : k < tail.length := Nat.lt_of_succ_lt_succ h
    have hskip := decodeFilledFrom_skip filler (tail.take k) []
    rw [List.append_nil, List.length_take_of_le (Nat.le_of_lt hk)] at hskip
    simp [decodeFilledFrom, readChar_take hc hk, hskip]

theorem encode_append (a b : Text) : encode (a ++ b) = encode a ++ encode b :=
  List.flatMap_append

theorem decodeFilledFrom_encode (filler : Text) (s : Text) (bytes : List UInt8) :
    decodeFilledFrom filler 0 (encode s ++ bytes) = s ++ decodeFilledFrom filler 0 bytes := by
  induction s with
  | nil => rfl
  | cons c s ih =>
    rw [encode, List.flatMap_cons, List.append_assoc, decodeFilledFrom_cons]
    exact congrArg (c :: ·) ih

theorem decodeFrom_encode (offset : Nat) (s : Text) : decodeFrom offset 0 (encode s) = .ok s := by
  induction s generalizing offset with
  | nil => rfl
  | cons c s ih =>
    rw [encode, List.flatMap_cons, decodeFrom_cons]
    exact congrArg (Except.map (c :: ·)) (ih _)

/-- A text that is written is read back. -/
theorem decode_encode (s : Text) : decode (encode s) = .ok s :=
  decodeFrom_encode 0 s

theorem decodeLossy_encode (s : Text) : decodeLossy (encode s) = s := by
  have h := decodeFilledFrom_encode [Char.ofNat 0xFFFD] s []
  rwa [List.append_nil, decodeFilledFrom, List.append_nil] at h

/-! ### Offsets -/

/-- The number of characters at the front of `s` whose bytes all lie within the first `n`. -/
def fitting : Text → Nat → Nat
  | [], _ => 0
  | c :: s, n => if c.utf8Size ≤ n then fitting s (n - c.utf8Size) + 1 else 0

theorem length_decodeReadable_take (s : Text) (n : Nat) :
    (decodeReadable ((encode s).take n)).length = fitting s n := by
  unfold decodeReadable
  induction s generalizing n with
  | nil => simp [encode, decodeFilledFrom, fitting]
  | cons c s ih =>
    rw [encode, List.flatMap_cons, List.take_append, length_encodeChar, fitting]
    split
    · rename_i h
      rw [List.take_of_length_le (by rwa [length_encodeChar]), decodeFilledFrom_cons, List.length_cons]
      exact congrArg (· + 1) (ih _)
    · rename_i h
      rw [Nat.sub_eq_zero_of_le (by omega), List.take_zero, List.append_nil,
        decodeFilledFrom_take [] (by omega)]
      simp

/-- The characters before a byte offset are those whose bytes all stand before it. -/
theorem charsBefore_encode (s : Text) (n : Nat) : charsBefore (encode s) n = fitting s n := by
  rw [charsBefore, if_neg (by omega), Int.toNat_natCast, length_decodeReadable_take]

theorem fitting_le_length (s : Text) (n : Nat) : fitting s n ≤ s.length := by
  induction s generalizing n with
  | nil => exact Nat.le_refl 0
  | cons c s ih =>
    rw [fitting]
    split
    · exact Nat.succ_le_succ (ih _)
    · exact Nat.zero_le _

theorem fitting_mono (s : Text) {m n : Nat} (h : m ≤ n) : fitting s m ≤ fitting s n := by
  induction s generalizing m n with
  | nil => exact Nat.le_refl 0
  | cons c s ih =>
    rw [fitting, fitting]
    split
    · rw [if_pos (by omega)]
      exact Nat.succ_le_succ (ih (by omega))
    · exact Nat.zero_le _

theorem length_encode_cons (c : Char) (s : Text) :
    (encode (c :: s)).length = c.utf8Size + (encode s).length := by
  rw [encode, List.flatMap_cons, List.length_append, length_encodeChar]
  rfl

theorem length_le_length_encode (s : Text) : s.length ≤ (encode s).length := by
  induction s with
  | nil => exact Nat.le_refl 0
  | cons c s ih =>
    have hc := c.utf8Size_pos
    rw [length_encode_cons, List.length_cons]
    omega

/-- Where every character takes one byte, byte offsets are character offsets. -/
theorem fitting_of_length_encode {s : Text} (h : (encode s).length = s.length) (n : Nat) :
    fitting s n = min n s.length := by
  induction s generalizing n with
  | nil => exact (Nat.min_zero n).symm
  | cons c s ih =>
    have hc := c.utf8Size_pos
    have hs := length_le_length_encode s
    rw [length_encode_cons, List.length_cons] at h
    rw [fitting, List.length_cons]
    split
    · rw [ih (by omega)]
      omega
    · omega

/-- The byte offset of the character at `k`. -/
def byteOffset (s : Text) (k : Nat) : Nat :=
  (encode (s.take k)).length

/-- The byte offset `o` cuts no character of the text in two. -/
def IsBoundary (s : Text) (o : Nat) : Prop :=
  ∃ k ≤ s.length, byteOffset s k = o

theorem byteOffset_add (s : Text) (a k : Nat) :
    byteOffset s (a + k) = byteOffset s a + (encode ((s.drop a).take k)).length := by
  rw [byteOffset, List.take_add, encode_append, List.length_append, byteOffset]

theorem byteOffset_slice {s : Text} {a b : Nat} (h : a ≤ b) :
    byteOffset s b = byteOffset s a + (encode (s.slice a b)).length := by
  obtain ⟨k, rfl⟩ := Nat.exists_eq_add_of_le h
  rw [slice, Nat.add_sub_cancel_left, byteOffset_add]

theorem fitting_byteOffset {s : Text} {k : Nat} (h : k ≤ s.length) :
    fitting s (byteOffset s k) = k := by
  induction s generalizing k with
  | nil => exact (Nat.le_zero.mp h).symm
  | cons c s ih =>
    cases k with
    | zero =>
      have hc := c.utf8Size_pos
      exact if_neg (Nat.not_le.mpr hc)
    | succ k =>
      have hoffset : byteOffset (c :: s) (k + 1) = c.utf8Size + byteOffset s k :=
        length_encode_cons c (s.take k)
      rw [hoffset, fitting, if_pos (Nat.le_add_right ..), Nat.add_sub_cancel_left,
        ih (Nat.le_of_succ_le_succ h)]

theorem le_of_byteOffset_le {s : Text} {a b : Nat} (ha : a ≤ s.length) (hb : b ≤ s.length)
    (h : byteOffset s a ≤ byteOffset s b) : a ≤ b := by
  rw [← fitting_byteOffset ha, ← fitting_byteOffset hb]
  exact fitting_mono s h

/-- The bytes between two boundaries are those of the characters between them. -/
theorem slice_encode {s : Text} {a b : Nat} (h : a ≤ b) :
    ((encode s).drop (byteOffset s a)).take (byteOffset s b - byteOffset s a) =
      encode (s.slice a b) := by
  obtain ⟨k, rfl⟩ := Nat.exists_eq_add_of_le h
  have hsplit : encode s = encode (s.take a) ++
      (encode ((s.drop a).take k) ++ encode ((s.drop a).drop k)) := by
    rw [← encode_append, ← encode_append, List.take_append_drop, List.take_append_drop]
  rw [byteOffset_add, Nat.add_sub_cancel_left, slice, Nat.add_sub_cancel_left, hsplit, byteOffset,
    List.drop_left, List.take_left]

theorem exists_slice {s : Text} {m n : Nat} (hm : IsBoundary s m) (hn : IsBoundary s n) (h : m ≤ n) :
    ∃ a b, a ≤ b ∧ b ≤ s.length ∧ byteOffset s a = m ∧ byteOffset s b = n ∧
      ((encode s).drop m).take (n - m) = encode (s.slice a b) := by
  obtain ⟨a, ha, rfl⟩ := hm
  obtain ⟨b, hb, rfl⟩ := hn
  have hab : a ≤ b := le_of_byteOffset_le ha hb h
  exact ⟨a, b, hab, hb, rfl, rfl, slice_encode hab⟩

end WebBaseline.Text.Utf8
