import WebBaseline.Proofs.Text.Position
import WebBaseline.Proofs.Text.Utf8
import WebBaseline.Script.Scan

/-! Ranges of nodes.

A node has byte offsets and its range has positions. In between stand character offsets: the numbers of
characters that fit before the byte offsets, and in a text of one-byte characters the byte offsets
themselves, which lead to the same positions (`range_ofText`). So positions come in the order of byte
offsets (`position_fitting_le`), and a node between characters has the positions of exactly the
characters that its bytes encode (`range_covers`). -/
namespace WebBaseline.Script

open Text.Utf8 (byteOffset charsBefore fitting IsBoundary)

theorem isPlain_ofText_iff (text : Text) :
    (Source.ofText text).isPlain ↔ (Text.Utf8.encode text).length = text.length :=
  decide_eq_true_iff

theorem position_charOffset (text : Text) (o : Nat) :
    text.position ((Source.ofText text).charOffset o) = text.position (fitting text o) := by
  unfold Source.charOffset
  split
  · rename_i h
    rw [Text.Utf8.fitting_of_length_encode ((isPlain_ofText_iff text).mp h), Text.position_min]
  · exact congrArg (text.position ∘ Nat.cast) (Text.Utf8.charsBefore_encode text o)

/-- The range of a node is that of the characters whose bytes stand before its ends. -/
theorem range_ofText (text : Text) (n : Node) :
    (Source.ofText text).range n =
      Range.ofOffsets text (fitting text n.start) (fitting text n.stop) := by
  unfold Source.range Range.ofOffsets
  rw [← position_charOffset, ← position_charOffset]
  rfl

theorem position_fitting_le (text : Text) {a b : Nat} (h : a ≤ b) :
    text.position (fitting text a) ≤ text.position (fitting text b) :=
  Text.position_le_position (Text.Utf8.fitting_mono text h) (Text.Utf8.fitting_le_length text b)

/-- **A range covers the characters of its node.** Where the bytes of a node begin and end between
characters, its range goes from the character offset of the first end to that of the other, and the text
between these is what the bytes encode. In a text of one-byte characters the byte offsets are taken as
they are, and lead to the range that they lead to as character offsets. -/
theorem range_covers (text : Text) (n : Node) :
    let s := Source.ofText text
    (IsBoundary text n.start → IsBoundary text n.stop → n.start ≤ n.stop →
      ∃ a b, a ≤ b ∧ b ≤ text.length ∧ byteOffset text a = n.start ∧ byteOffset text b = n.stop ∧
        s.range n = ⟨text.position a, text.position b⟩ ∧
        Text.Utf8.decode ((s.bytes.drop n.start).take (n.stop - n.start)) = .ok (text.slice a b) ∧
        n.text s.bytes = text.slice a b) ∧
    (s.bytes.length = text.length →
      s.range n = Range.ofOffsets text n.start n.stop ∧
      s.range n =
        Range.ofOffsets text (charsBefore s.bytes n.start) (charsBefore s.bytes n.stop)) := by
  intro s
  refine ⟨?_, fun hplain => ⟨?_, ?_⟩⟩
  · intro hstart hstop hle
    obtain ⟨a, b, hab, hb, ha, hbstop, hbytes⟩ := Text.Utf8.exists_slice hstart hstop hle
    have hslice : (s.bytes.drop n.start).take (n.stop - n.start) =
        Text.Utf8.encode (text.slice a b) := hbytes
    refine ⟨a, b, hab, hb, ha, hbstop, ?_, ?_, ?_⟩
    · rw [range_ofText, ← ha, ← hbstop, Text.Utf8.fitting_byteOffset (Nat.le_trans hab hb),
        Text.Utf8.fitting_byteOffset hb]
      rfl
    · rw [hslice, Text.Utf8.decode_encode]
    · rw [Node.text, hslice, Text.Utf8.decodeLossy_encode]
  · have hoffset (o : Nat) : s.charOffset o = o := if_pos ((isPlain_ofText_iff text).mpr hplain)
    rw [Source.range, hoffset, hoffset]
    rfl
  · rw [range_ofText, ← Text.Utf8.charsBefore_encode, ← Text.Utf8.charsBefore_encode]
    rfl

/-- Characters of one to four bytes stand before, in and behind the node, and on the line above it. The
other text is plain, and its node ends behind the text. -/
theorem range_covers_wide :
    let text : Text := "𝄞\nß日é€ü"
    let n : Node := .mk none .string false 7 12 []
    let plain : Text := "a\nbc"
    let m : Node := .mk none .string false 3 9 []
    (IsBoundary text n.start ∧ IsBoundary text n.stop ∧ n.start ≤ n.stop ∧
      ∃ a b, a ≤ b ∧ b ≤ text.length ∧ byteOffset text a = n.start ∧ byteOffset text b = n.stop ∧
        (Source.ofText text).range n = ⟨text.position a, text.position b⟩ ∧
        Text.Utf8.decode (((Source.ofText text).bytes.drop n.start).take (n.stop - n.start)) =
          .ok (text.slice a b) ∧
        n.text (Source.ofText text).bytes = text.slice a b) ∧
    (Source.ofText text).range n = Range.onLine 1 1 3 ∧
    n.text (Source.ofText text).bytes = "日é".toList ∧
    (Source.ofText plain).bytes.length = plain.length ∧
    Range.ofOffsets plain m.start m.stop = Range.ofOffsets plain
      (charsBefore (Source.ofText plain).bytes m.start)
      (charsBefore (Source.ofText plain).bytes m.stop) := by
  intro text n plain m
  have hstart : IsBoundary text n.start := ⟨3, by decide +kernel, by decide +kernel⟩
  have hstop : IsBoundary text n.stop := ⟨5, by decide +kernel, by decide +kernel⟩
  have hplain : (Source.ofText plain).bytes.length = plain.length := by decide +kernel
  obtain ⟨hbytes, hchars⟩ := (range_covers plain m).2 hplain
  exact ⟨⟨hstart, hstop, by decide, (range_covers text n).1 hstart hstop (by decide)⟩,
    by decide +kernel, by decide +kernel, hplain, hbytes.symm.trans hchars⟩

end WebBaseline.Script
