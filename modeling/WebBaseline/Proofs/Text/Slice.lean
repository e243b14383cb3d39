import WebBaseline.Text.Basic

/-! Parts of a text.

A word stands in a text at an offset if the text from there on starts with the word: `w <+: s.drop o`.
What stands in a part of a text stands in the text (`prefix_drop_drop`), and the slice of the text at
the word's place is the word (`slice_of_prefix`). -/
namespace WebBaseline.Text

/-- The characters of a text between two offsets. -/
def slice (s : Text) (start stop : Nat) : Text :=
  (s.drop start).take (stop - start)

variable {s t w : Text}

theorem slice_of_prefix {o : Nat} (h : w <+: s.drop o) : s.slice o (o + w.length) = w := by
  unfold slice
  rw [Nat.add_sub_cancel_left]
  exact (List.prefix_iff_eq_take.mp h).symm

theorem prefix_drop_drop {a b : Nat} (ht : t <+: s.drop a) (hw : w <+: t.drop b) :
    w <+: s.drop (a + b) := by
  obtain ⟨r, hr⟩ := ht
  rw [← List.drop_drop, ← hr, List.drop_append]
  exact hw.trans (List.prefix_append ..)

theorem add_length_le_of_prefix {o : Nat} (h : w <+: s.drop o) (hw : w ≠ []) :
    o + w.length ≤ s.length := by
  have hle := h.length_le
  have hpos := List.length_pos_iff.mpr hw
  rw [List.length_drop] at hle
  omega

end WebBaseline.Text
