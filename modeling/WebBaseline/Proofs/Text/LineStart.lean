import Mathlib.Data.List.Basic
import WebBaseline.Proofs.Text.Position
import WebBaseline.Proofs.Text.Slice

/-! Where lines begin and end.

Line feeds cut a text into rows (`IsRow`), and every offset stands in one, or right behind it
(`exists_row`). A row begins where a line does (`IsRow.getElem?_lineStarts`), the offsets in it are its
columns (`IsRow.position`), and the line of its number is the row without the carriage return of its break
(`IsRow.getElem?_lines`). So a place in a row is a place in the line just if the line does not end before
it (`IsRow.getElem?_iff`). -/
namespace WebBaseline.Text

/-! ### Rows -/

/-- The text is `before`, a row, and `behind`: the row is what stands between two line feeds, or between
one and an end of the text. -/
structure IsRow (s before row behind : Text) : Prop where
  whole : s = before ++ (row ++ behind)
  opens : before = [] ∨ before.getLast? = some '\n'
  free : '\n' ∉ row
  closes : ∀ c ∈ behind.head?, c = '\n'

namespace IsRow

variable {s before row behind : Text}

theorem first {row behind : Text} (hfree : '\n' ∉ row) (hcloses : ∀ c ∈ behind.head?, c = '\n') :
    IsRow (row ++ behind) [] row behind :=
  ⟨rfl, .inl rfl, hfree, hcloses⟩

theorem of_free (h : '\n' ∉ s) : IsRow s [] s [] :=
  ⟨(List.append_nil s).symm, .inl rfl, h, nofun⟩

/-- A row stays one with a line above it. -/
theorem below (h : IsRow s before row behind) (a : Text) :
    IsRow (a ++ '\n' :: s) (a ++ '\n' :: before) row behind := by
  refine ⟨?_, .inr ?_, h.free, h.closes⟩
  · rw [h.whole, List.append_assoc, List.cons_append]
  · rcases h.opens with rfl | hlast
    · exact List.getLast?_concat
    · rw [List.getLast?_append, List.getLast?_cons, hlast]
      rfl

theorem drop_add (h : IsRow s before row behind) (k : Nat) :
    s.drop (before.length + k) = (row ++ behind).drop k := by
  rw [h.whole, List.drop_length_add_append]

theorem getElem?_add (h : IsRow s before row behind) (k : Nat) :
    s[before.length + k]? = (row ++ behind)[k]? := by
  rw [h.whole, List.getElem?_append_right (Nat.le_add_right ..), Nat.add_sub_cancel_left]

/-- In a row, columns are counted from its begin. -/
theorem position (h : IsRow s before row behind) {k : Nat} (hk : k ≤ row.length) :
    s.position ↑(before.length + k) = ⟨before.count '\n', k⟩ := by
  have hrow : (row ++ behind).position k = ⟨0, k⟩ := by
    rw [position_append_left hk, position_free h.free hk]
  rw [h.whole]
  rcases h.opens with rfl | hlast
  · rw [List.nil_append, List.length_nil, Nat.zero_add, hrow, List.count_nil]
  · rw [position_append_right hlast, hrow, Position.down, Nat.zero_add]

end IsRow

/-- Every offset stands in a row, or right behind it. -/
theorem exists_row {s : Text} {o : Nat} (h : o ≤ s.length) : ∃ before row behind,
    IsRow s before row behind ∧ before.length ≤ o ∧ o ≤ before.length + row.length := by
  induction s using lineInduction generalizing o with
  | last s hs =>
    exact ⟨[], s, [], .of_free hs, Nat.zero_le _, by rwa [List.length_nil, Nat.zero_add]⟩
  | line a s ha ih =>
    rw [List.length_append, List.length_cons] at h
    rcases Nat.lt_or_ge a.length o with hlt | hle
    · obtain ⟨before, row, behind, hrow, hlow, hhigh⟩ := ih (o := o - (a.length + 1)) (by omega)
      refine ⟨a ++ '\n' :: before, row, behind, hrow.below a, ?_, ?_⟩ <;>
        rw [List.length_append, List.length_cons] <;> omega
    · exact ⟨[], a, '\n' :: s, .first ha (by simp), Nat.zero_le _,
        by rwa [List.length_nil, Nat.zero_add]⟩

/-- There is a row below every number of line feeds that the text has. -/
theorem exists_row_of_le_count {s : Text} {n : Nat} (h : n ≤ s.count '\n') : ∃ before row behind,
    IsRow s before row behind ∧ before.count '\n' = n := by
  induction s using lineInduction generalizing n with
  | last s hs =>
    rw [List.count_eq_zero.mpr hs] at h
    exact ⟨[], s, [], .of_free hs, (Nat.le_zero.mp h).symm⟩
  | line a s ha ih =>
    have hcount (t : Text) : (a ++ '\n' :: t).count '\n' = t.count '\n' + 1 := by
      rw [List.count_append, List.count_eq_zero.mpr ha, List.count_cons_self, Nat.zero_add]
    cases n with
    | zero => exact ⟨[], a, '\n' :: s, .first ha (by simp), rfl⟩
    | succ n =>
      rw [hcount] at h
      obtain ⟨before, row, behind, hrow, hn⟩ := ih (Nat.le_of_succ_le_succ h)
      exact ⟨a ++ '\n' :: before, row, behind, hrow.below a, by rw [hcount, hn]⟩

/-! ### Where lines begin -/

/-- The offsets at which lines begin: the first one, and those behind line feeds. -/
def lineStarts (s : Text) : List Nat :=
  0 :: s.idxsOf '\n' 1

theorem length_lineStarts (s : Text) : (lineStarts s).length = s.count '\n' + 1 := by
  rw [lineStarts, List.length_cons, List.idxsOf, List.length_findIdxs]
  rfl

theorem pairwise_lineStarts (s : Text) : (lineStarts s).Pairwise (· < ·) :=
  List.pairwise_cons.mpr ⟨fun _ h => List.ge_of_mem_findIdxs _ h, List.pairwise_findIdxs⟩

/-- Behind a line feed, a line begins. -/
theorem getElem?_lineStarts_feed (a s : Text) :
    (lineStarts (a ++ '\n' :: s))[a.count '\n' + 1]? = some (a.length + 1) := by
  have hlength : (a.idxsOf '\n' 1).length = a.count '\n' := List.length_findIdxs
  rw [lineStarts, List.getElem?_cons_succ, List.idxsOf, List.findIdxs_append, ← List.idxsOf,
    List.getElem?_append_right (Nat.le_of_eq hlength), hlength, Nat.sub_self, List.findIdxs_cons,
    if_pos (beq_self_eq_true _), List.getElem?_cons_zero, Nat.add_comm]

theorem IsRow.getElem?_lineStarts {s before row behind : Text} (h : IsRow s before row behind) :
    (lineStarts s)[before.count '\n']? = some before.length := by
  rw [h.whole]
  rcases h.opens with rfl | hlast
  · rfl
  · obtain ⟨a, rfl⟩ := List.getLast?_eq_some_iff.mp hlast
    rw [List.append_assoc, List.singleton_append, List.count_append, List.count_singleton_self,
      getElem?_lineStarts_feed, List.length_append, List.length_singleton]

/-- The next line begins behind the row and its line feed. -/
theorem IsRow.eq_of_getElem?_succ {s before row behind : Text} (h : IsRow s before row behind)
    {start : Nat} (hstart : (lineStarts s)[before.count '\n' + 1]? = some start) :
    start = before.length + row.length + 1 := by
  have hcount : (before ++ row).count '\n' = before.count '\n' := by
    rw [List.count_append, List.count_eq_zero.mpr h.free, Nat.add_zero]
  rw [h.whole, ← List.append_assoc, ← hcount] at hstart
  cases hbehind : behind with
  | nil =>
    have hbound := (List.getElem?_eq_some_iff.mp hstart).1
    rw [hbehind, List.append_nil, length_lineStarts] at hbound
    omega
  | cons c rest =>
    rw [hbehind, h.closes c (by rw [hbehind]; rfl), getElem?_lineStarts_feed, Option.some.injEq,
      List.length_append] at hstart
    exact hstart.symm

/-! ### Where lines end -/

/-- A line ends in front of `rest`: nothing follows, or a line break does. -/
def EndsLine (rest : Text) : Prop :=
  rest = [] ∨ ['\n'] <+: rest ∨ ['\r', '\n'] <+: rest

theorem endsLine_cons_iff {c : Char} {rest : Text} :
    EndsLine (c :: rest) ↔ c = '\n' ∨ c = '\r' ∧ rest.head? = some '\n' := by
  cases rest with
  | nil => simp [EndsLine, eq_comm]
  | cons d rest => simp [EndsLine, List.cons_prefix_cons, eq_comm]

theorem endsLine_of_closes {behind : Text} (h : ∀ c ∈ behind.head?, c = '\n') : EndsLine behind := by
  cases behind with
  | nil => exact .inl rfl
  | cons c rest => exact endsLine_cons_iff.mpr (.inl (h c rfl))

/-- The line of a row: a carriage return at its end belongs to the break, if there is one. -/
def lineOf (row behind : Text) : Text :=
  if behind = [] then row else dropReturn row

theorem lineOf_isPrefixOf (row behind : Text) : lineOf row behind <+: row := by
  unfold lineOf
  split
  · exact List.prefix_rfl
  · rw [dropReturn_eq]
    split
    · exact List.dropLast_prefix row
    · exact List.prefix_rfl

theorem lineOf_cons_cons (c d : Char) (row behind : Text) :
    lineOf (c :: d :: row) behind = c :: lineOf (d :: row) behind := by
  unfold lineOf
  split
  · rfl
  · simp only [dropReturn_eq, List.getLast?_cons_cons, List.dropLast_cons_cons]
    split <;> rfl

/-- From the end of the line on, and in the row only there, the line ends. -/
theorem endsLine_drop_iff {row behind : Text} (hfree : '\n' ∉ row)
    (hcloses : ∀ c ∈ behind.head?, c = '\n') {k : Nat} (hk : k ≤ row.length) :
    EndsLine ((row ++ behind).drop k) ↔ (lineOf row behind).length ≤ k := by
  induction row generalizing k with
  | nil =>
    have hlength := (lineOf_isPrefixOf [] behind).length_le
    obtain rfl := Nat.le_zero.mp hk
    exact iff_of_true (endsLine_of_closes hcloses) hlength
  | cons c row ih =>
    have hc : c ≠ '\n' := fun h => hfree (h ▸ List.mem_cons_self ..)
    have hrow : '\n' ∉ row := fun h => hfree (List.mem_cons_of_mem _ h)
    cases k with
    | zero =>
      -- Only the last character of a row can belong to the break.
      rw [List.drop_zero, List.cons_append, endsLine_cons_iff, or_iff_right hc]
      cases row with
      | nil => cases behind <;> simp_all [lineOf, dropReturn_eq]
      | cons d row =>
        have hd : d ≠ '\n' := fun h => hrow (h ▸ List.mem_cons_self ..)
        simp [lineOf_cons_cons, hd]
    | succ k =>
      rw [List.cons_append, List.drop_succ_cons, ih hrow (Nat.le_of_succ_le_succ hk)]
      cases row with
      | nil =>
        have hempty := (lineOf_isPrefixOf [] behind).length_le
        have hline := (lineOf_isPrefixOf [c] behind).length_le
        simp only [List.length_nil, List.length_singleton] at hempty hline
        omega
      | cons d row => rw [lineOf_cons_cons, List.length_cons, Nat.succ_le_succ_iff]

/-! ### The lines of the rows -/

theorem length_lines (s : Text) : (lines s).length = s.count '\n' + 1 := by
  induction s using lineInduction with
  | last s hs => rw [lines_free hs, List.count_eq_zero.mpr hs, List.length_singleton]
  | line a s ha ih =>
    rw [lines_line ha, List.length_cons, ih, List.count_append, List.count_eq_zero.mpr ha,
      List.count_cons_self, Nat.zero_add]

/-- The lines below a line feed are those of the text behind it. -/
theorem getElem?_lines_feed (a s : Text) (n : Nat) :
    (lines (a ++ '\n' :: s))[a.count '\n' + 1 + n]? = (lines s)[n]? := by
  induction a using lineInduction with
  | last a ha =>
    rw [lines_line ha, List.count_eq_zero.mpr ha, Nat.zero_add, Nat.add_comm, List.getElem?_cons_succ]
  | line b a hb ih =>
    rw [List.append_assoc, List.cons_append, lines_line hb, List.count_append,
      List.count_eq_zero.mpr hb, List.count_cons_self, Nat.zero_add, Nat.add_right_comm,
      List.getElem?_cons_succ, ih]

theorem getElem?_lines_zero {row behind : Text} (hfree : '\n' ∉ row)
    (hcloses : ∀ c ∈ behind.head?, c = '\n') :
    (lines (row ++ behind))[0]? = some (lineOf row behind) := by
  cases behind with
  | nil =>
    rw [List.append_nil, lines_free hfree]
    rfl
  | cons c behind =>
    rw [hcloses c rfl, lines_line hfree]
    rfl

namespace IsRow

variable {s before row behind : Text}

theorem getElem?_lines (h : IsRow s before row behind) :
    (lines s)[before.count '\n']? = some (lineOf row behind) := by
  rw [← getElem?_lines_zero h.free h.closes, h.whole]
  rcases h.opens with rfl | hlast
  · rfl
  · obtain ⟨a, rfl⟩ := List.getLast?_eq_some_iff.mp hlast
    rw [List.append_assoc, List.singleton_append, List.count_append, List.count_singleton_self,
      ← Nat.add_zero (a.count '\n' + 1), getElem?_lines_feed]

theorem endsLine_iff (h : IsRow s before row behind) {k : Nat} (hk : k ≤ row.length) :
    EndsLine (s.drop (before.length + k)) ↔ (lineOf row behind).length ≤ k := by
  rw [h.drop_add, endsLine_drop_iff h.free h.closes hk]

theorem slice_line (h : IsRow s before row behind) :
    s.slice before.length (before.length + (lineOf row behind).length) = lineOf row behind := by
  apply slice_of_prefix
  rw [← Nat.add_zero before.length, h.drop_add, List.drop_zero]
  exact (lineOf_isPrefixOf row behind).trans (List.prefix_append ..)

/-- A place in the row is a place in the line unless the line ends before it. -/
theorem getElem?_iff (h : IsRow s before row behind) {k : Nat} (hk : k ≤ row.length) (c : Char) :
    (lineOf row behind)[k]? = some c ↔
      s[before.length + k]? = some c ∧ ¬ EndsLine (s.drop (before.length + k)) := by
  obtain ⟨rest, hrest⟩ := (lineOf_isPrefixOf row behind).trans (List.prefix_append row behind)
  rw [h.endsLine_iff hk, h.getElem?_add, ← hrest, Nat.not_le]
  rcases Nat.lt_or_ge k (lineOf row behind).length with hlt | hle
  · rw [List.getElem?_append_left hlt, and_iff_left hlt]
  · rw [List.getElem?_eq_none hle]
    exact iff_of_false nofun fun hn => Nat.not_le.mpr hn.2 hle

end IsRow

end WebBaseline.Text
