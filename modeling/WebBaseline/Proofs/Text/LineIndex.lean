import WebBaseline.Proofs.Text.LineStart

/-! Positions by a table of line starts.

A text that is asked for many positions is read once, for the offsets at which its lines begin; an offset
is then looked up among them by halving (`LineIndex.search`). The table gives the positions that reading up
to the offset gives (`LineIndex.position_ofText`), and these are places in the lines of the text
(`position_corresponds`). -/
namespace WebBaseline

/-- The offsets at which the lines of a text begin, and its length. -/
structure LineIndex where
  starts : List Nat
  length : Nat

namespace LineIndex

def ofText (s : Text) : LineIndex :=
  ⟨s.lineStarts, s.length⟩

/-- The number of starts up to `o`, if those before `lo` are and those from `hi` on are not. -/
def search (starts : List Nat) (o lo hi : Nat) : Nat :=
  if lo < hi then
    if o < starts.getD ((lo + hi) / 2) 0 then search starts o lo ((lo + hi) / 2)
    else search starts o ((lo + hi) / 2 + 1) hi
  else lo
termination_by hi - lo

/-- The offset within the text that is nearest to `o`. -/
def clamp (length : Nat) (o : Int) : Nat :=
  (max 0 (min o length)).toNat

def position (index : LineIndex) (o : Int) : Position :=
  let c := clamp index.length o
  let line := search index.starts c 0 index.starts.length - 1
  ⟨line, c - index.starts.getD line 0⟩

/-- The search finds the border between the starts up to `o` and those behind it. -/
theorem search_eq {starts : List Nat} {o border : Nat}
    (hbefore : ∀ i < border, starts.getD i 0 ≤ o)
    (hbehind : ∀ i < starts.length, border ≤ i → o < starts.getD i 0) {lo hi : Nat}
    (hlo : lo ≤ border) (hhi : border ≤ hi) (hlength : hi ≤ starts.length) :
    search starts o lo hi = border := by
  fun_induction search starts o lo hi with
  | case1 lo hi hlt hsmaller ih =>
    have hborder : border ≤ (lo + hi) / 2 := by
      by_contra hnot
      have hle := hbefore _ (Nat.lt_of_not_le hnot)
      omega
    exact ih hlo hborder (by omega)
  | case2 lo hi hlt hnot ih =>
    have hborder : (lo + hi) / 2 < border := by
      by_contra hge
      exact hnot (hbehind _ (by omega) (Nat.le_of_not_lt hge))
    exact ih hborder hhi hlength
  | case3 lo hi hnot => omega

end LineIndex

namespace Text

open LineIndex (clamp)

theorem clamp_le_length (s : Text) (o : Int) : clamp s.length o ≤ s.length := by
  unfold clamp
  omega

/-- An offset outside the text counts as its nearer end. -/
theorem position_clamp (s : Text) (o : Int) : s.position ↑(clamp s.length o) = s.position o := by
  rcases Int.le_total o 0 with hneg | hpos
  · have hclamp : clamp s.length o = 0 := by
      unfold clamp
      omega
    unfold position
    rw [hclamp, Int.toNat_natCast, Int.toNat_of_nonpos hneg]
  · obtain ⟨o, rfl⟩ := Int.eq_ofNat_of_zero_le hpos
    have hclamp : clamp s.length o = min o s.length := by
      unfold clamp
      omega
    rw [hclamp, position_min]

theorem getD_lineStarts {s : Text} {i start : Nat} (h : s.lineStarts[i]? = some start) :
    s.lineStarts.getD i 0 = start := by
  rw [List.getD_eq_getElem?_getD, h, Option.getD_some]

/-- Line starts come in order. -/
theorem getD_lineStarts_le {s : Text} {i j : Nat} (h : i ≤ j) (hj : j < s.lineStarts.length) :
    s.lineStarts.getD i 0 ≤ s.lineStarts.getD j 0 := by
  have hi := Nat.lt_of_le_of_lt h hj
  rw [getD_lineStarts (List.getElem?_eq_getElem hi), getD_lineStarts (List.getElem?_eq_getElem hj)]
  rcases Nat.lt_or_eq_of_le h with hlt | rfl
  · exact Nat.le_of_lt (List.pairwise_iff_getElem.mp (pairwise_lineStarts s) i j hi hj hlt)
  · exact Nat.le_refl _

/-- The lines up to that of a row begin at an offset in the row or before it, and no others. -/
theorem IsRow.search_eq {s before row behind : Text} (h : IsRow s before row behind) {o : Nat}
    (hlow : before.length ≤ o) (hhigh : o ≤ before.length + row.length) :
    LineIndex.search s.lineStarts o 0 s.lineStarts.length = before.count '\n' + 1 := by
  have hstart := h.getElem?_lineStarts
  have hline := (List.getElem?_eq_some_iff.mp hstart).1
  apply LineIndex.search_eq _ _ (Nat.zero_le _) hline (Nat.le_refl _)
  · intro i hi
    have hle := getD_lineStarts_le (Nat.le_of_lt_succ hi) hline
    rw [getD_lineStarts hstart] at hle
    exact Nat.le_trans hle hlow
  · intro i hi hborder
    have hle := getD_lineStarts_le hborder hi
    have hnext := List.getElem?_eq_getElem (Nat.lt_of_le_of_lt hborder hi)
    rw [getD_lineStarts hnext, h.eq_of_getElem?_succ hnext] at hle
    omega

end Text

/-- The table gives the positions of the text. -/
theorem LineIndex.position_ofText (s : Text) (o : Int) : (ofText s).position o = s.position o := by
  obtain ⟨before, row, behind, hrow, hlow, hhigh⟩ := Text.exists_row (Text.clamp_le_length s o)
  obtain ⟨k, hk⟩ := Nat.exists_eq_add_of_le hlow
  have hposition := hrow.position (k := k) (by omega)
  rw [← hk, Text.position_clamp] at hposition
  simp only [position, ofText, hrow.search_eq hlow hhigh, Nat.add_sub_cancel,
    Text.getD_lineStarts hrow.getElem?_lineStarts, hposition]
  rw [hk, Nat.add_sub_cancel_left]

namespace Text

open LineIndex (clamp)

/-- The position of an offset is told by the line feeds in front of it. -/
theorem exists_start (s : Text) (o : Int) : ∃ start ≤ clamp s.length o,
    (start = 0 ∨ s[start - 1]? = some '\n') ∧ '\n' ∉ s.slice start (clamp s.length o) ∧
    s.lineStarts[(s.take (clamp s.length o)).count '\n']? = some start ∧
    s.position o = ⟨(s.take (clamp s.length o)).count '\n', clamp s.length o - start⟩ := by
  obtain ⟨before, row, behind, hrow, hlow, hhigh⟩ := exists_row (clamp_le_length s o)
  obtain ⟨k, hk⟩ := Nat.exists_eq_add_of_le hlow
  have hkrow : k ≤ row.length := by omega
  have hslice : s.slice before.length (before.length + k) = row.take k := by
    rw [slice, Nat.add_sub_cancel_left, ← Nat.add_zero before.length, hrow.drop_add, List.drop_zero,
      List.take_append_of_le_length hkrow]
  have hfree : '\n' ∉ row.take k := fun h => hrow.free (List.mem_of_mem_take h)
  have hcount : (s.take (before.length + k)).count '\n' = before.count '\n' := by
    rw [hrow.whole, List.take_length_add_append, List.take_append_of_le_length hkrow, List.count_append,
      List.count_eq_zero.mpr hfree, Nat.add_zero]
  rw [hk, hcount]
  refine ⟨before.length, Nat.le_add_right .., ?_, by rwa [hslice], hrow.getElem?_lineStarts, ?_⟩
  · rcases hrow.opens with rfl | hlast
    · exact .inl rfl
    · right
      rw [List.getLast?_eq_getElem?] at hlast
      have hbound := (List.getElem?_eq_some_iff.mp hlast).1
      rw [hrow.whole, List.getElem?_append_left hbound, hlast]
  · rw [Nat.add_sub_cancel_left, ← hrow.position hkrow, ← hk, position_clamp]

theorem position_injective {s : Text} {a b : Nat} (ha : a ≤ s.length) (hb : b ≤ s.length)
    (h : s.position a = s.position b) : a = b := by
  rcases Nat.lt_trichotomy a b with hlt | heq | hgt
  · exact absurd h (Position.ne_of_lt (position_lt_position hlt hb))
  · exact heq
  · exact absurd h.symm (Position.ne_of_lt (position_lt_position hgt ha))

/-- A line goes from its start to where the first line break begins, or to the end of the text, and its
columns are counted from its start. -/
theorem exists_span {s line : Text} {n : Nat} (h : (lines s)[n]? = some line) :
    ∃ start, s.lineStarts[n]? = some start ∧ line = s.slice start (start + line.length) ∧
      EndsLine (s.drop (start + line.length)) ∧
      (∀ k < line.length, ¬ EndsLine (s.drop (start + k))) ∧
      ∀ k ≤ line.length, s.position ↑(start + k) = ⟨n, k⟩ := by
  have hn : n ≤ s.count '\n' := by
    have hbound := (List.getElem?_eq_some_iff.mp h).1
    rw [length_lines] at hbound
    omega
  obtain ⟨before, row, behind, hrow, rfl⟩ := exists_row_of_le_count hn
  obtain rfl := Option.some.inj (hrow.getElem?_lines.symm.trans h)
  have hle := (lineOf_isPrefixOf row behind).length_le
  refine ⟨before.length, hrow.getElem?_lineStarts, hrow.slice_line.symm, ?_, fun k hk => ?_, fun k hk => ?_⟩
  · exact (hrow.endsLine_iff hle).mpr (Nat.le_refl _)
  · rw [hrow.endsLine_iff (Nat.le_of_lt (Nat.lt_of_lt_of_le hk hle))]
    exact Nat.not_le.mpr hk
  · exact hrow.position (Nat.le_trans hk hle)

/-- The character at a position of a line is the one at the offset, for all but the characters of line
breaks. -/
theorem char_position_iff {s : Text} {o : Nat} (h : o ≤ s.length) (c : Char) :
    (∃ l, (lines s)[(s.position o).line]? = some l ∧ l[(s.position o).column]? = some c) ↔
      s[o]? = some c ∧ ¬ EndsLine (s.drop o) := by
  obtain ⟨before, row, behind, hrow, hlow, hhigh⟩ := exists_row h
  obtain ⟨k, rfl⟩ := Nat.exists_eq_add_of_le hlow
  have hk : k ≤ row.length := Nat.le_of_add_le_add_left hhigh
  rw [hrow.position hk, hrow.getElem?_lines]
  simp only [Option.some.injEq, exists_eq_left', hrow.getElem?_iff hk]

/-- **Offsets and positions correspond, and positions are places in the lines.** A position holds the number
of line feeds in front of the offset, which may lie outside the text, and how far it is behind the last of
them; the table of line starts gives the same. Positions come in the order of their offsets. There are as
many lines as line starts, each line goes from its start to the first line break or the end of the text, and
its columns are the positions of its characters. -/
theorem position_corresponds (s : Text) :
    (∀ o : Int, (LineIndex.ofText s).position o = s.position o ∧
      ∃ start ≤ clamp s.length o,
        (start = 0 ∨ s[start - 1]? = some '\n') ∧ '\n' ∉ s.slice start (clamp s.length o) ∧
        s.lineStarts[(s.take (clamp s.length o)).count '\n']? = some start ∧
        s.position o = ⟨(s.take (clamp s.length o)).count '\n', clamp s.length o - start⟩) ∧
    (∀ a b : Nat, a < b → b ≤ s.length → s.position a < s.position b) ∧
    (∀ a b : Nat, a ≤ s.length → b ≤ s.length → s.position a = s.position b → a = b) ∧
    (lines s).length = s.lineStarts.length ∧
    (∀ n line, (lines s)[n]? = some line →
      ∃ start, s.lineStarts[n]? = some start ∧ line = s.slice start (start + line.length) ∧
        EndsLine (s.drop (start + line.length)) ∧
        (∀ k < line.length, ¬ EndsLine (s.drop (start + k))) ∧
        ∀ k ≤ line.length, s.position ↑(start + k) = ⟨n, k⟩) ∧
    ∀ (o : Nat) (c : Char), o ≤ s.length →
      ((∃ l, (lines s)[(s.position o).line]? = some l ∧ l[(s.position o).column]? = some c) ↔
        s[o]? = some c ∧ ¬ EndsLine (s.drop o)) := by
  refine ⟨fun o => ⟨LineIndex.position_ofText s o, exists_start s o⟩, ?_, ?_, ?_, ?_, ?_⟩
  · intro a b h hb
    exact position_lt_position h hb
  · intro a b ha hb h
    exact position_injective ha hb h
  · rw [length_lines, length_lineStarts]
  · intro n line h
    exact exists_span h
  · intro o c h
    exact char_position_iff h c

/-- A line break of two characters, a carriage return that is none, and a line break at the end. -/
theorem position_corresponds_breaks :
    let s : Text := "a\r\n\rb\n"
    lines s = ["a", "\rb", ""] ∧ s.lineStarts = [0, 3, 6] ∧
    (LineIndex.ofText s).position 9 = ⟨2, 0⟩ ∧ (LineIndex.ofText s).position (-5) = ⟨0, 0⟩ ∧
    s.position 1 < s.position 2 ∧ (∀ a : Nat, a ≤ s.length → s.position a = ⟨1, 2⟩ → a = 5) ∧
    (∃ start, s.lineStarts[1]? = some start ∧ EndsLine (s.drop (start + 2)) ∧
      s.position ↑(start + 1) = ⟨1, 1⟩) ∧
    ((∃ l, (lines s)[1]? = some l ∧ l[0]? = some '\r') ↔
      s[3]? = some '\r' ∧ ¬ EndsLine (s.drop 3)) := by
  intro s
  obtain ⟨hindex, hlt, hinjective, -, hspan, hchar⟩ := position_corresponds s
  have hline : (lines s)[1]? = some ['\r', 'b'] := by decide
  obtain ⟨start, hstart, -, hends, -, hcolumns⟩ := hspan 1 _ hline
  refine ⟨by decide, by decide, ?_, ?_, hlt 1 2 (by decide) (by decide), fun a ha h => ?_,
    ⟨start, hstart, hends, hcolumns 1 (by decide)⟩, hchar 3 '\r' (by decide)⟩
  · rw [(hindex 9).1]
    decide
  · rw [(hindex (-5)).1]
    decide
  · exact hinjective a 5 ha (by decide) h

end Text

end WebBaseline
