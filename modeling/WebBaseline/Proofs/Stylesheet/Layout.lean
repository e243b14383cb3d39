import WebBaseline.Proofs.Stylesheet.Comment
import WebBaseline.Proofs.Stylesheet.Segment

/-! Line breaks between segments do not matter.

A line feed that is put in behind a terminator, outside of comments, splits a line where a segment ends
anyway. Both halves have the same segments, at the same depth and in the same comments as before; only
their places change, as `Position.afterBreak` says. `scan_insertBreak` is the law: the scan of the text
with the break reports the same findings, in order, moved. -/
namespace WebBaseline

/-- Where a position goes when a line feed is put in at `b`: what stands behind `b` on its line starts
the next one, and every later line is one further down. -/
def Position.afterBreak (b q : Position) : Position :=
  if q.line = b.line ∧ b.column ≤ q.column then ⟨q.line + 1, q.column - b.column⟩
  else if b.line < q.line then ⟨q.line + 1, q.column⟩
  else q

namespace Position

theorem afterBreak_before {b q : Position}
    (h : q.line < b.line ∨ q.line = b.line ∧ q.column < b.column) : b.afterBreak q = q := by
  unfold afterBreak
  rw [if_neg (by omega), if_neg (by omega)]

theorem afterBreak_behind (line column k : Nat) :
    afterBreak ⟨line, column⟩ ⟨line, column + k⟩ = ⟨line + 1, 0 + k⟩ := by
  unfold afterBreak
  rw [if_pos ⟨rfl, Nat.le_add_right ..⟩, Nat.add_sub_cancel_left, Nat.zero_add]

theorem afterBreak_below {b q : Position} (h : b.line < q.line) :
    b.afterBreak q = ⟨q.line + 1, q.column⟩ := by
  unfold afterBreak
  rw [if_neg (by omega), if_pos h]

end Position

namespace Stylesheet

/-! ### The broken line -/

theorem depthBehind_append {c : Char} (hc : isTerminator c = true) (depth start start' : Nat)
    (a s : Text) :
    depthBehind depth (segments start (a ++ c :: s)) =
      depthBehind (depthBehind depth (segments start (a ++ [c]))) (segments start' s) := by
  induction a using Text.pieceInduction isTerminator generalizing depth start with
  | last a h =>
    rw [segments_piece h hc, segments_piece h hc]
    exact depthBehind_start ..
  | cut a d b h hd ih =>
    rw [List.append_assoc, List.cons_append, List.append_assoc, List.cons_append,
      segments_piece h hd, segments_piece h hd]
    exact ih ..

theorem lineMentions_nil (line depth start : Nat) : lineMentions line depth start [] = [] := rfl

/-- A segment that ends before the break stays. -/
theorem Placed.mentions_break {line column start : Nat} {s : Text}
    (h : start + s.length < column) (depth : Nat) (terminator : Option Char) :
    (Placed.mentions ⟨line, depth, ⟨start, s, terminator⟩⟩).map
        (Mention.move (Position.afterBreak ⟨line, column⟩)) =
      Placed.mentions ⟨line, depth, ⟨start, s, terminator⟩⟩ := by
  apply Placed.mentions_move
  intro k hk
  exact Position.afterBreak_before (.inr ⟨rfl, by simp only; omega⟩)

/-- What a line mentions when it is broken behind a terminator: the front stays, and the rest moves to
the start of the next line. -/
theorem lineMentions_break {c : Char} (hc : isTerminator c = true) (line depth start : Nat)
    (a s : Text) :
    (lineMentions line depth start (a ++ c :: s)).map
        (Mention.move (Position.afterBreak ⟨line, start + a.length + 1⟩)) =
      lineMentions line depth start (a ++ [c]) ++
        lineMentions (line + 1) (depthBehind depth (segments start (a ++ [c]))) 0 s := by
  -- The front is followed segment by segment, as far as the terminator before the break.
  induction a using Text.pieceInduction isTerminator generalizing depth start with
  | last a h =>
    rw [lineMentions_piece h hc, lineMentions_piece h hc, List.map_append,
      Placed.mentions_break (by omega),
      lineMentions_move fun k _ => Position.afterBreak_behind line (start + a.length + 1) k,
      segments_piece h hc, lineMentions_nil, List.append_nil]
    rfl
  | cut a d b h hd ih =>
    have hcolumn : start + (a ++ d :: b).length + 1 = start + a.length + 1 + b.length + 1 := by
      simp only [List.length_append, List.length_cons]
      omega
    rw [List.append_assoc, List.cons_append, List.append_assoc, List.cons_append,
      lineMentions_piece h hd, lineMentions_piece h hd, segments_piece h hd, List.map_append,
      Placed.mentions_break (by omega), hcolumn, ih, List.append_assoc]
    rfl

/-! ### The broken text -/

/-- What the lines of a text mention, where the text starts at a line, inside `depth` open blocks and
maybe inside a comment. -/
def mentionsFrom (line depth : Nat) (inside : Bool) (text : Text) : List Mention :=
  linesMentions line depth (maskLines inside (Text.lines text))

theorem mentionsFrom_line {a : Text} (h : '\n' ∉ a) (line depth : Nat) (inside : Bool) (s : Text) :
    mentionsFrom line depth inside (a ++ '\n' :: s) =
      lineMentions line depth 0 (maskLine inside (Text.dropReturn a)).1 ++
        mentionsFrom (line + 1)
          (depthBehind depth (segments 0 (maskLine inside (Text.dropReturn a)).1))
          (commentOpen inside a) s := by
  unfold mentionsFrom
  rw [Text.lines_line h, maskLines_cons, linesMentions_cons, commentOpen_dropReturn]

theorem plain_of_isTerminator {c : Char} (h : isTerminator c = true) :
    IsPlain c ∧ c ≠ '\n' ∧ c ≠ '\r' := by
  simp only [isTerminator, Bool.or_eq_true, beq_iff_eq] at h
  rcases h with (rfl | rfl) | rfl <;> decide

/-- The break on the first line of a text. -/
theorem mentionsFrom_break_free {c : Char} (hc : isTerminator c = true) {a : Text} (ha : '\n' ∉ a)
    (line depth : Nat) {inside : Bool} (h : commentOpen inside a = false) (s : Text) :
    (mentionsFrom line depth inside (a ++ c :: s)).map
        (Mention.move (Position.afterBreak ⟨line, a.length + 1⟩)) =
      mentionsFrom line depth inside (a ++ c :: '\n' :: s) := by
  obtain ⟨hplain, hn, hr⟩ := plain_of_isTerminator hc
  obtain ⟨b, rest, hs, hglued⟩ := Text.lines_append ha hn hr s
  have hfront : '\n' ∉ a ++ [c] := by simp [ha, hn.symm]
  have hcolumn : a.length + 1 = 0 + (maskLine inside a).1.length + 1 := by
    rw [length_maskLine, Nat.zero_add]
  have below : ∀ l k, line + 1 ≤ l →
      Position.afterBreak ⟨line, a.length + 1⟩ ⟨l, k⟩ = ⟨l + 1, k⟩ :=
    fun l k hl => Position.afterBreak_below hl
  calc (mentionsFrom line depth inside (a ++ c :: s)).map
        (Mention.move (Position.afterBreak ⟨line, a.length + 1⟩))
      = (lineMentions line depth 0 ((maskLine inside a).1 ++ c :: (maskLine false b).1) ++
          linesMentions (line + 1)
            (depthBehind depth (segments 0 ((maskLine inside a).1 ++ c :: (maskLine false b).1)))
            (maskLines (commentOpen false b) rest)).map
          (Mention.move (Position.afterBreak ⟨line, a.length + 1⟩)) := by
        rw [mentionsFrom, hglued, maskLines_cons, linesMentions_cons, maskLine_append hplain h,
          commentOpen_append hplain, h]
    _ = lineMentions line depth 0 ((maskLine inside a).1 ++ [c]) ++
          mentionsFrom (line + 1) (depthBehind depth (segments 0 ((maskLine inside a).1 ++ [c])))
            false s := by
        rw [List.map_append, linesMentions_move below, hcolumn, lineMentions_break hc,
          depthBehind_append hc depth 0 0 (maskLine inside a).1 (maskLine false b).1, mentionsFrom, hs,
          maskLines_cons, linesMentions_cons, List.append_assoc]
    _ = mentionsFrom line depth inside (a ++ c :: '\n' :: s) := by
        have hline := mentionsFrom_line hfront line depth inside s
        rw [Text.dropReturn_append hr, maskLine_append hplain h, commentOpen_append hplain, h,
          List.append_assoc] at hline
        exact hline.symm

theorem mentionsFrom_break {c : Char} (hc : isTerminator c = true) (a s : Text) (line depth : Nat)
    {inside : Bool} (h : commentOpen inside a = false) :
    (mentionsFrom line depth inside (a ++ c :: s)).map
        (Mention.move (Position.afterBreak (Text.advance ⟨line, 0⟩ (a ++ [c])))) =
      mentionsFrom line depth inside (a ++ c :: '\n' :: s) := by
  obtain ⟨hplain, hn, hr⟩ := plain_of_isTerminator hc
  induction a using Text.lineInduction generalizing line depth inside with
  | last a ha =>
    have hfront : '\n' ∉ a ++ [c] := by simp [ha, hn.symm]
    rw [Text.advance_free hfront, List.length_append, Nat.zero_add]
    exact mentionsFrom_break_free hc ha line depth h s
  | line b a hb ih =>
    rw [commentOpen_append (by decide)] at h
    have hbreak := Text.line_le_advance ⟨line + 1, 0⟩ (a ++ [c])
    have stays : ∀ k ≤ (maskLine inside (Text.dropReturn b)).1.length,
        (Text.advance ⟨line + 1, 0⟩ (a ++ [c])).afterBreak ⟨line, 0 + k⟩ = ⟨line, 0 + k⟩ :=
      fun k _ => Position.afterBreak_before (.inl hbreak)
    simp only [List.append_assoc, List.cons_append]
    rw [Text.advance_line hb, mentionsFrom_line hb, mentionsFrom_line hb, List.map_append,
      lineMentions_move stays, ih _ _ h]

/-- **A line feed behind a terminator changes places only.** The terminator stands at the offset `p`,
outside of comments, and the line feed is put in right behind it. -/
theorem scan_insertBreak (text : Text) (index : Index) (p : Nat) (c : Char) (hp : text[p]? = some c)
    (hc : isTerminator c = true) (h : commentOpen false (text.take p) = false) :
    scan (text.take (p + 1) ++ '\n' :: text.drop (p + 1)) index =
      (scan text index).map (Finding.move (Position.afterBreak (text.position ↑(p + 1)))) := by
  have htext : text.take p ++ c :: text.drop (p + 1) = text := by
    obtain ⟨hlt, hget⟩ := List.getElem?_eq_some_iff.mp hp
    rw [← hget, List.getElem_cons_drop, List.take_append_drop]
  have hfront : text.take (p + 1) = text.take p ++ [c] := by
    rw [List.take_add_one, hp]
    rfl
  have hbroken : text.take (p + 1) ++ '\n' :: text.drop (p + 1) =
      text.take p ++ c :: '\n' :: text.drop (p + 1) := by
    rw [hfront, List.append_assoc]
    rfl
  have hmentions : (mentions text).map
      (Mention.move (Position.afterBreak (text.position ↑(p + 1)))) =
      mentions (text.take (p + 1) ++ '\n' :: text.drop (p + 1)) := by
    have hbreak := mentionsFrom_break hc (text.take p) (text.drop (p + 1)) 0 0 h
    rw [htext, ← hfront, ← hbroken] at hbreak
    exact hbreak
  rw [scan_eq_mentions, scan_eq_mentions, ← hmentions, List.filterMap_map, List.map_filterMap]
  congr 1
  funext m
  exact Mention.finding?_move index.markup _ m

/-- A rule below a comment, broken between its declarations. -/
theorem scan_insertBreak_gap :
    let text : Text := "/*\x7b*/\na\x7bb:c;gap:1px\x7d"
    let index : Index := { markup := [("gap", { id := "gap", name := [], status := .limited })] }
    scan text index = [⟨Range.onLine 1 6 9, .limited, "gap", "gap"⟩] ∧
      scan (text.take 12 ++ '\n' :: text.drop 12) index =
        [⟨Range.onLine 2 0 3, .limited, "gap", "gap"⟩] := by
  intro text index
  have hscan : scan text index = [⟨Range.onLine 1 6 9, .limited, "gap", "gap"⟩] := by
    decide +kernel
  refine ⟨hscan, ?_⟩
  rw [scan_insertBreak text index 11 ';' (by decide) (by decide) (by decide), hscan]
  decide +kernel

end Stylesheet

end WebBaseline
