import WebBaseline.Proofs.Stylesheet.Spot
import WebBaseline.Proofs.Text.Pieces

/-! Segments of a line, wherever the line stands.

A line without terminators is one segment, and one with a terminator is a segment and then the segments
of what follows (`segments_free`, `segments_piece`). What a line mentions (`lineMentions`) moves with
the line, and nothing else about it changes: that is `lineMentions_move`. -/
namespace WebBaseline.Stylesheet

/-! ### Cutting a line -/

theorem segments_free {s : Text} (h : ∀ x ∈ s, isTerminator x = false) (start : Nat) :
    segments start s = [⟨start, s, none⟩] := by
  induction s generalizing start with
  | nil => rfl
  | cons c s ih =>
    have hc : isTerminator c = false := h c (List.mem_cons_self ..)
    simp [segments, hc, ih fun x hx => h x (List.mem_cons_of_mem _ hx)]

theorem segments_piece {a : Text} {c : Char} (h : ∀ x ∈ a, isTerminator x = false)
    (hc : isTerminator c = true) (start : Nat) (s : Text) :
    segments start (a ++ c :: s) = ⟨start, a, some c⟩ :: segments (start + a.length + 1) s := by
  induction a generalizing start with
  | nil => simp [segments, hc]
  | cons b a ih =>
    have hb : isTerminator b = false := h b (List.mem_cons_self ..)
    have hstart : start + 1 + a.length + 1 = start + (b :: a).length + 1 := by
      rw [List.length_cons]
      omega
    simp [segments, hb, ih fun x hx => h x (List.mem_cons_of_mem _ hx), hstart]

/-- A segment stands in its line between terminators. -/
theorem exists_of_mem_segments {start : Nat} {s : Text} {seg : Segment} (h : seg ∈ segments start s) :
    ∃ a b, s = a ++ (seg.text ++ b) ∧ seg.start = start + a.length ∧
      (∀ c ∈ a.getLast?, isTerminator c = true) ∧ ∀ c ∈ b.head?, isTerminator c = true := by
  induction s using Text.pieceInduction isTerminator generalizing start with
  | last s hs =>
    rw [segments_free hs] at h
    rw [List.mem_singleton.mp h]
    exact ⟨[], [], by simp, rfl, by simp, by simp⟩
  | cut piece c s hpiece hc ih =>
    rw [segments_piece hpiece hc] at h
    rcases List.mem_cons.mp h with rfl | h
    · exact ⟨[], c :: s, rfl, rfl, by simp, by simpa using hc⟩
    · obtain ⟨a, b, rfl, hstart, ha, hb⟩ := ih h
      refine ⟨piece ++ c :: a, b, by simp, ?_, ?_, hb⟩
      · rw [hstart, List.length_append, List.length_cons]
        omega
      · cases a with
        | nil => simpa using hc
        | cons x a => simpa using ha

/-- The number of open blocks behind a line; it does not matter where the line starts. -/
theorem depthBehind_start (start start' depth : Nat) (s : Text) :
    depthBehind depth (segments start s) = depthBehind depth (segments start' s) := by
  induction s using Text.pieceInduction isTerminator generalizing start start' depth with
  | last s h =>
    rw [segments_free h, segments_free h]
    rfl
  | cut a c s h hc ih =>
    rw [segments_piece h hc, segments_piece h hc]
    exact ih ..

/-! ### What a line mentions -/

/-- What a line mentions that starts at a column, inside `depth` open blocks. -/
def lineMentions (line depth start : Nat) (s : Text) : List Mention :=
  (placed line depth (segments start s)).flatMap Placed.mentions

theorem lineMentions_piece {a : Text} {c : Char} (h : ∀ x ∈ a, isTerminator x = false)
    (hc : isTerminator c = true) (line depth start : Nat) (s : Text) :
    lineMentions line depth start (a ++ c :: s) =
      Placed.mentions ⟨line, depth, ⟨start, a, some c⟩⟩ ++
        lineMentions line (Segment.depthAfter ⟨start, a, some c⟩ depth) (start + a.length + 1) s := by
  unfold lineMentions
  rw [segments_piece h hc]
  rfl

/-- What a segment mentions moves with the segment. -/
theorem Placed.mentions_move {g : Position → Position} {line start line' start' : Nat} {s : Text}
    (h : ∀ k ≤ s.length, g ⟨line, start + k⟩ = ⟨line', start' + k⟩) (depth : Nat)
    (terminator : Option Char) :
    (Placed.mentions ⟨line, depth, ⟨start, s, terminator⟩⟩).map (Mention.move g) =
      Placed.mentions ⟨line', depth, ⟨start', s, terminator⟩⟩ := by
  unfold Placed.mentions
  rw [List.map_map]
  apply List.map_congr_left
  intro spot hspot
  have hfits := Placed.fits_spots hspot
  simp only at hfits
  have hstop := hfits.inside
  have hproper := hfits.proper
  simp only [Function.comp_apply, Spot.mention, Mention.move, Range.onLine]
  rw [h spot.start (by omega), h spot.stop hstop]

/-- What a line mentions moves with the line. -/
theorem lineMentions_move {g : Position → Position} {line line' : Nat} {s : Text}
    {start start' : Nat} (h : ∀ k ≤ s.length, g ⟨line, start + k⟩ = ⟨line', start' + k⟩)
    (depth : Nat) :
    (lineMentions line depth start s).map (Mention.move g) = lineMentions line' depth start' s := by
  induction s using Text.pieceInduction isTerminator generalizing start start' depth with
  | last s hs =>
    unfold lineMentions
    rw [segments_free hs, segments_free hs]
    simp only [placed, List.flatMap_cons, List.flatMap_nil, List.append_nil]
    exact Placed.mentions_move h depth none
  | cut a c s ha hc ih =>
    rw [List.length_append, List.length_cons] at h
    have hrest : ∀ k ≤ s.length,
        g ⟨line, start + a.length + 1 + k⟩ = ⟨line', start' + a.length + 1 + k⟩ := by
      intro k hk
      have := h (a.length + 1 + k) (by omega)
      simpa only [Nat.add_assoc] using this
    rw [lineMentions_piece ha hc, lineMentions_piece ha hc, List.map_append,
      Placed.mentions_move (fun k hk => h k (by omega)) depth (some c), ih hrest]
    rfl

/-! ### What consecutive lines mention -/

/-- What consecutive masked lines mention; `line` is the number of the first. -/
def linesMentions (line depth : Nat) (ls : List Text) : List Mention :=
  (placedLines line depth ls).flatMap Placed.mentions

theorem linesMentions_cons (line depth : Nat) (s : Text) (rest : List Text) :
    linesMentions line depth (s :: rest) =
      lineMentions line depth 0 s ++
        linesMentions (line + 1) (depthBehind depth (segments 0 s)) rest := by
  unfold linesMentions lineMentions
  rw [placedLines, List.flatMap_append]

/-- What lines mention moves with the lines. -/
theorem linesMentions_move {g : Position → Position} {n line : Nat}
    (h : ∀ l c, line ≤ l → g ⟨l, c⟩ = ⟨l + n, c⟩) (depth : Nat) (ls : List Text) :
    (linesMentions line depth ls).map (Mention.move g) = linesMentions (line + n) depth ls := by
  induction ls generalizing line depth with
  | nil => rfl
  | cons s rest ih =>
    have hline : ∀ k ≤ s.length, g ⟨line, 0 + k⟩ = ⟨line + n, 0 + k⟩ :=
      fun k _ => h line _ (Nat.le_refl line)
    have hrest : ∀ l c, line + 1 ≤ l → g ⟨l, c⟩ = ⟨l + n, c⟩ := fun l c hl => h l c (by omega)
    rw [linesMentions_cons, linesMentions_cons, List.map_append, lineMentions_move hline, ih hrest,
      Nat.add_right_comm]

end WebBaseline.Stylesheet
