import Mathlib.Order.Bounds.Defs
import Mathlib.Order.Monotone.Basic
import WebBaseline.Proofs.Text.Utf8

/-! Byte offsets as character offsets.

The first `k` characters fit into the first `n` bytes just if at most `n` bytes are written for them
(`le_fitting_iff`). So a byte offset leads to the greatest such `k`, and all that is expected of the
conversion follows (`charsBefore_isGreatest`): it takes the offset of a character back to the character,
an offset inside a character to that character, and an offset behind the text to its end. -/
namespace WebBaseline.Text.Utf8

theorem byteOffset_cons (c : Char) (s : Text) (k : Nat) :
    byteOffset (c :: s) (k + 1) = c.utf8Size + byteOffset s k :=
  length_encode_cons c (s.take k)

theorem byteOffset_length (s : Text) : byteOffset s s.length = (encode s).length := by
  rw [byteOffset, List.take_length]

/-- Fitting into some bytes, and being written in at most as many, are two sides of one thing. -/
theorem le_fitting_iff {s : Text} {k : Nat} (h : k ≤ s.length) (n : Nat) :
    k ≤ fitting s n ↔ byteOffset s k ≤ n := by
  induction s generalizing k n with
  | nil =>
    obtain rfl := Nat.le_zero.mp h
    exact iff_of_true (Nat.zero_le _) (Nat.zero_le _)
  | cons c s ih =>
    cases k with
    | zero => exact iff_of_true (Nat.zero_le _) (Nat.zero_le _)
    | succ k =>
      have hk := ih (Nat.le_of_succ_le_succ h) (n - c.utf8Size)
      rw [byteOffset_cons, fitting]
      split
      · rw [Nat.succ_le_succ_iff, hk]
        omega
      · omega

/-- The characters before a byte offset are the most that fit before it. -/
theorem isGreatest_fitting (s : Text) (n : Nat) :
    IsGreatest {k | k ≤ s.length ∧ byteOffset s k ≤ n} (fitting s n) := by
  have hle := fitting_le_length s n
  constructor
  · exact ⟨hle, (le_fitting_iff hle n).mp (Nat.le_refl _)⟩
  · rintro k ⟨hk, hn⟩
    exact (le_fitting_iff hk n).mpr hn

/-- An offset inside a character leads to the character. -/
theorem fitting_of_inside {s : Text} {k n : Nat} (hk : k < s.length) (hn : byteOffset s k ≤ n)
    (hnext : n < byteOffset s (k + 1)) : fitting s n = k := by
  have hfits : k ≤ fitting s n := (le_fitting_iff (Nat.le_of_lt hk) n).mpr hn
  have hnot : ¬ k + 1 ≤ fitting s n := by
    rw [le_fitting_iff hk]
    exact Nat.not_le.mpr hnext
  omega

theorem fitting_of_length_le {s : Text} {n : Nat} (h : (encode s).length ≤ n) :
    fitting s n = s.length := by
  apply Nat.le_antisymm (fitting_le_length s n)
  rwa [le_fitting_iff (Nat.le_refl _), byteOffset_length]

/-- **A byte offset leads to the most characters that end at it or before it.** So it takes back what the
encoding of the first characters gives, grows with the offset, stays at a character while the offset is
inside of it, and comes to the end of the text with the last byte. -/
theorem charsBefore_isGreatest (s : Text) :
    (∀ n : Nat, IsGreatest {k | k ≤ s.length ∧ (encode (s.take k)).length ≤ n}
      (charsBefore (encode s) n)) ∧
    (∀ k ≤ s.length, charsBefore (encode s) (encode (s.take k)).length = k) ∧
    (Monotone fun n : Nat => charsBefore (encode s) n) ∧
    (∀ k n : Nat, k < s.length → (encode (s.take k)).length ≤ n →
      n < (encode (s.take (k + 1))).length → charsBefore (encode s) n = k) ∧
    ∀ n : Nat, (encode s).length ≤ n → charsBefore (encode s) n = s.length := by
  simp only [charsBefore_encode]
  refine ⟨isGreatest_fitting s, fun k hk => fitting_byteOffset hk, fun m n h => fitting_mono s h, ?_, ?_⟩
  · intro k n hk hn hnext
    exact fitting_of_inside hk hn hnext
  · intro n hn
    exact fitting_of_length_le hn

/-- Characters of one to four bytes; the offsets are in front of a character, behind each of the first
three bytes of the widest one, and behind the text. -/
theorem charsBefore_isGreatest_wide :
    let s : Text := "é!𝄞日"
    IsGreatest {k | k ≤ s.length ∧ (encode (s.take k)).length ≤ 5} 2 ∧
    3 ≤ s.length ∧ charsBefore (encode s) (encode (s.take 3)).length = 3 ∧
    charsBefore (encode s) 6 ≤ charsBefore (encode s) 8 ∧
    (∀ n ∈ [4, 5, 6], (encode (s.take 2)).length ≤ n ∧ n < (encode (s.take 3)).length ∧
      charsBefore (encode s) n = 2) ∧
    (encode s).length ≤ 11 ∧ charsBefore (encode s) 11 = s.length := by
  intro s
  obtain ⟨hgreatest, hback, hmono, hinside, hbehind⟩ := charsBefore_isGreatest s
  have hlengths : (encode (s.take 2)).length = 3 ∧ (encode (s.take 3)).length = 7 ∧
      (encode s).length = 10 := by decide +kernel
  obtain ⟨htwo, hthree, hall⟩ := hlengths
  have hwide : ∀ n ∈ [4, 5, 6], (encode (s.take 2)).length ≤ n ∧ n < (encode (s.take 3)).length := by
    rw [htwo, hthree]
    decide
  have hfive := hwide 5 (by decide)
  refine ⟨?_, by decide, hback 3 (by decide), hmono (by decide), fun n hn => ?_, by omega,
    hbehind 11 (by omega)⟩
  · rw [← hinside 2 5 (by decide) hfive.1 hfive.2]
    exact hgreatest 5
  · obtain ⟨hlow, hhigh⟩ := hwide n hn
    exact ⟨hlow, hhigh, hinside 2 n (by decide) hlow hhigh⟩

end WebBaseline.Text.Utf8
