import WebBaseline.Proofs.Text.Pieces

/-! Positions in the order of the text.

Positions are ordered by line and then by column. Reading on leads to a later position, so the position
of an offset grows with the offset (`position_lt_position`). -/
namespace WebBaseline

namespace Position

instance : LT Position := ⟨fun p q => p.line < q.line ∨ p.line = q.line ∧ p.column < q.column⟩

instance : LE Position := ⟨fun p q => p.line < q.line ∨ p.line = q.line ∧ p.column ≤ q.column⟩

theorem lt_iff {p q : Position} :
    p < q ↔ p.line < q.line ∨ p.line = q.line ∧ p.column < q.column := Iff.rfl

theorem le_iff {p q : Position} :
    p ≤ q ↔ p.line < q.line ∨ p.line = q.line ∧ p.column ≤ q.column := Iff.rfl

theorem le_refl (p : Position) : p ≤ p :=
  .inr ⟨rfl, Nat.le_refl _⟩

theorem le_of_lt {p q : Position} (h : p < q) : p ≤ q := by
  rw [lt_iff] at h
  rw [le_iff]
  omega

theorem ne_of_lt {p q : Position} (h : p < q) : p ≠ q := by
  rintro rfl
  rw [lt_iff] at h
  omega

theorem lt_of_lt_of_le {p q r : Position} (hpq : p < q) (hqr : q ≤ r) : p < r := by
  rw [lt_iff] at hpq ⊢
  rw [le_iff] at hqr
  omega

/-- The position `n` lines further down. -/
def down (n : Nat) (p : Position) : Position :=
  ⟨p.line + n, p.column⟩

end Position

namespace Text

/-- Reading some characters leads to a later position. -/
theorem lt_advance (p : Position) {s : Text} (h : s ≠ []) : p < advance p s := by
  induction s generalizing p with
  | nil => exact absurd rfl h
  | cons c s ih =>
    have hstep : p < if c = '\n' then ⟨p.line + 1, 0⟩ else ⟨p.line, p.column + 1⟩ := by
      split
      · exact .inl (Nat.lt_succ_self _)
      · exact .inr ⟨rfl, Nat.lt_succ_self _⟩
    cases s with
    | nil => exact hstep
    | cons d s => exact Position.lt_of_lt_of_le hstep (Position.le_of_lt (ih _ (List.cons_ne_nil d s)))

theorem position_add (s : Text) (a k : Nat) :
    s.position ↑(a + k) = advance (s.position a) ((s.drop a).take k) := by
  unfold position
  rw [Int.toNat_natCast, Int.toNat_natCast, List.take_add, advance_append]

theorem position_lt_position {s : Text} {a b : Nat} (h : a < b) (hb : b ≤ s.length) :
    s.position a < s.position b := by
  obtain ⟨k, rfl⟩ := Nat.exists_eq_add_of_le (Nat.le_of_lt h)
  rw [position_add]
  apply lt_advance
  apply List.length_pos_iff.mp
  rw [List.length_take, List.length_drop]
  omega

theorem position_le_position {s : Text} {a b : Nat} (h : a ≤ b) (hb : b ≤ s.length) :
    s.position a ≤ s.position b := by
  rcases Nat.lt_or_eq_of_le h with h | rfl
  · exact Position.le_of_lt (position_lt_position h hb)
  · exact Position.le_refl _

/-- An offset behind the text counts as its end. -/
theorem position_min (s : Text) (o : Nat) : s.position ↑(min o s.length) = s.position o := by
  unfold position
  rw [Int.toNat_natCast, Int.toNat_natCast, ← List.take_eq_take_min]

/-- Only line feeds lead to another line. -/
theorem advance_congr {s t : Text} (h : s.map (· == '\n') = t.map (· == '\n')) (p : Position) :
    advance p s = advance p t := by
  induction s generalizing t p with
  | nil =>
    cases t with
    | nil => rfl
    | cons => cases h
  | cons c s ih =>
    cases t with
    | nil => cases h
    | cons d t =>
      obtain ⟨hhead, htail⟩ := List.cons.inj h
      have hbreak : c = '\n' ↔ d = '\n' := by
        rw [← @beq_iff_eq _ _ _ c, ← @beq_iff_eq _ _ _ d]
        exact Bool.eq_iff_iff.mp hhead
      simp only [advance, hbreak, ih htail]

theorem position_congr {s t : Text} (h : s.map (· == '\n') = t.map (· == '\n')) :
    s.position = t.position := by
  funext o
  apply advance_congr
  rw [List.map_take, List.map_take, h]

theorem line_advance (p : Position) (s : Text) : (advance p s).line = p.line + s.count '\n' := by
  induction s generalizing p with
  | nil => rfl
  | cons c s ih =>
    simp only [advance, ih, List.count_cons]
    by_cases hc : c = '\n'
    · simp [hc]
      omega
    · simp [hc]

theorem advance_down (n : Nat) (p : Position) (s : Text) :
    advance (p.down n) s = (advance p s).down n := by
  induction s generalizing p with
  | nil => rfl
  | cons c s ih =>
    simp only [advance, ← ih]
    congr 1
    split
    · simp only [Position.down, Nat.add_right_comm]
    · rfl

/-- Positions in a text do not depend on what follows it. -/
theorem position_append_left {a : Text} {o : Nat} (h : o ≤ a.length) (b : Text) :
    (a ++ b).position o = a.position o := by
  unfold position
  rw [Int.toNat_natCast, List.take_append_of_le_length h]

/-- Behind a line feed, positions are counted anew, some lines further down. -/
theorem position_append_right {a : Text} (h : a.getLast? = some '\n') (b : Text) (o : Nat) :
    (a ++ b).position ↑(a.length + o) = (b.position o).down (a.count '\n') := by
  have hline : advance ⟨0, 0⟩ a = Position.down (a.count '\n') ⟨0, 0⟩ := by
    obtain ⟨s, rfl⟩ := List.getLast?_eq_some_iff.mp h
    rw [advance_append, List.count_append, Position.down]
    simp [advance, line_advance]
  unfold position
  rw [Int.toNat_natCast, Int.toNat_natCast, List.take_length_add_append, advance_append, hline,
    advance_down]

/-- On the first line, columns are offsets. -/
theorem position_free {s : Text} (hs : '\n' ∉ s) {o : Nat} (h : o ≤ s.length) :
    s.position o = ⟨0, o⟩ := by
  unfold position
  rw [Int.toNat_natCast, advance_free fun hm => hs (List.mem_of_mem_take hm), List.length_take,
    Nat.min_eq_left h, Nat.zero_add]

end Text

end WebBaseline
