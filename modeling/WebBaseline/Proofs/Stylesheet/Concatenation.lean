import WebBaseline.Proofs.Stylesheet.Layout
import WebBaseline.Proofs.Stylesheet.Masking
import WebBaseline.Proofs.Stylesheet.Value
import WebBaseline.Proofs.Text.Position

/-! Style sheets one below the other.

A scan carries two things from line to line: whether a comment is open, and how many blocks are
(`openBlocks`). Behind a text that leaves neither open, it starts anew: `scan_below` says that the scan of
two style sheets, one below the other, reports what both report, the second one further down. Braces that
close nothing leave nothing open, so they do not matter. -/
namespace WebBaseline.Stylesheet

/-! ### Open blocks -/

/-- The number of open blocks behind a text with `depth` open ones before it. A brace that closes nothing
is passed over. -/
def openBlocks (depth : Nat) (s : Text) : Nat :=
  s.foldl (fun d c => if c = '{' then d + 1 else if c = '}' then d - 1 else d) depth

theorem openBlocks_append (depth : Nat) (a b : Text) :
    openBlocks depth (a ++ b) = openBlocks (openBlocks depth a) b :=
  List.foldl_append

theorem openBlocks_free {s : Text} (h : ∀ c ∈ s, isTerminator c = false) (depth : Nat) :
    openBlocks depth s = depth := by
  induction s generalizing depth with
  | nil => rfl
  | cons c s ih =>
    obtain ⟨hc, hs⟩ := List.forall_mem_cons.mp h
    simp only [isTerminator, Bool.or_eq_false_iff, beq_eq_false_iff_ne] at hc
    simp only [openBlocks, List.foldl_cons, if_neg hc.1.1, if_neg hc.1.2]
    exact ih hs depth

/-- The segments of a line count its braces. -/
theorem depthBehind_segments (depth start : Nat) (s : Text) :
    depthBehind depth (segments start s) = openBlocks depth s := by
  induction s using Text.pieceInduction isTerminator generalizing depth start with
  | last s h =>
    rw [segments_free h, openBlocks_free h]
    rfl
  | cut a c s h hc ih =>
    have hstep : Segment.depthAfter ⟨start, a, some c⟩ depth = openBlocks depth [c] := by
      simp [Segment.depthAfter, openBlocks]
    calc depthBehind depth (segments start (a ++ c :: s))
        = depthBehind (Segment.depthAfter ⟨start, a, some c⟩ depth)
            (segments (start + a.length + 1) s) := by rw [segments_piece h hc]; rfl
      _ = openBlocks depth (c :: s) := by rw [hstep, ih, ← openBlocks_append]; rfl
      _ = openBlocks depth (a ++ c :: s) := by rw [openBlocks_append, openBlocks_free h]

/-- Line breaks are no braces. -/
theorem openBlocks_lines (depth : Nat) (s : Text) :
    (Text.lines s).foldl openBlocks depth = openBlocks depth s := by
  induction s using Text.lineInduction generalizing depth with
  | last s h => rw [Text.lines_free h]; rfl
  | line a s h ih =>
    have hreturn : openBlocks depth (Text.dropReturn a) = openBlocks depth a := by
      rw [Text.dropReturn_eq]
      split
      · rename_i hlast
        obtain ⟨b, rfl⟩ := List.getLast?_eq_some_iff.mp hlast
        rw [List.dropLast_concat, openBlocks_append]
        rfl
      · rfl
    rw [Text.lines_line h, List.foldl_cons, ih, hreturn, openBlocks_append]
    rfl

/-! ### One text below another -/

/-- Behind a line feed, the scan goes on with the comment and the blocks that the text before leaves
open. -/
theorem mentionsFrom_below {a : Text} (hreturn : a.getLast? ≠ some '\r') (line depth : Nat)
    (inside : Bool) (b : Text) :
    mentionsFrom line depth inside (a ++ '\n' :: b) =
      mentionsFrom line depth inside a ++
        mentionsFrom (line + (Text.lines a).length)
          ((maskLines inside (Text.lines a)).foldl openBlocks depth) (commentOpen inside a) b := by
  induction a using Text.lineInduction generalizing line depth inside with
  | last a ha =>
    have hwhole : Text.dropReturn a = a := by rw [Text.dropReturn_eq, if_neg hreturn]
    have hfirst : mentionsFrom line depth inside a = lineMentions line depth 0 (maskLine inside a).1 := by
      rw [mentionsFrom, Text.lines_free ha, maskLines_cons, linesMentions_cons]
      exact List.append_nil _
    rw [mentionsFrom_line ha, hwhole, hfirst, depthBehind_segments, Text.lines_free ha]
    rfl
  | line c a hc ih =>
    have hlast : a.getLast? ≠ some '\r' := by
      intro hlast
      apply hreturn
      rw [List.getLast?_append, List.getLast?_cons, hlast]
      rfl
    have hlines : line + (Text.lines (c ++ '\n' :: a)).length =
        line + 1 + (Text.lines a).length := by
      rw [Text.lines_line hc, List.length_cons]
      omega
    rw [List.append_assoc, List.cons_append, mentionsFrom_line hc, mentionsFrom_line hc, ih hlast,
      hlines, Text.lines_line hc, maskLines_cons, List.foldl_cons, depthBehind_segments,
      commentOpen_dropReturn, commentOpen_append (by decide), List.append_assoc]

/-- The scan of a text that stands below another one goes on with what that one leaves open. -/
theorem scan_eq_append_scanLines {a : Text} (hreturn : a.getLast? ≠ some '\r') (b : Text)
    (index : Index) :
    scan (a ++ '\n' :: b) index =
      scan a index ++ scanLines index (Text.lines a).length (openBlocks 0 (mask a))
        (maskLines (commentOpen false a) (Text.lines b)) := by
  have hdepth : (maskLines false (Text.lines a)).foldl openBlocks 0 = openBlocks 0 (mask a) := by
    rw [← lines_mask, openBlocks_lines]
  have hbelow : mentions (a ++ '\n' :: b) = mentions a ++ _ :=
    mentionsFrom_below hreturn 0 0 false b
  rw [scan_eq_mentions, hbelow, List.filterMap_append, ← scan_eq_mentions, hdepth, Nat.zero_add,
    scanLines_eq]
  rfl

/-- Where nothing is open, a scan starts anew, whatever the number of the line. -/
theorem scanLines_down (index : Index) (n : Nat) (b : Text) :
    scanLines index n 0 (maskLines false (Text.lines b)) =
      (scan b index).map (Finding.move (Position.down n)) := by
  have hmove : (mentions b).map (Mention.move (Position.down n)) =
      linesMentions (0 + n) 0 (maskLines false (Text.lines b)) :=
    linesMentions_move (fun _ _ _ => rfl) 0 _
  rw [Nat.zero_add] at hmove
  rw [scanLines_eq, ← linesMentions, ← hmove, scan_eq_mentions, List.filterMap_map,
    List.map_filterMap]
  congr 1
  funext m
  exact Mention.finding?_move index.markup _ m

/-! ### Stray braces -/

/-- Braces that close nothing, and blanks around them. -/
def IsStray (s : Text) : Prop :=
  ∀ c ∈ s, c = '}' ∨ Text.isBlank c = true

instance (s : Text) : Decidable (IsStray s) :=
  List.decidableBAll (fun c => c = '}' ∨ Text.isBlank c = true) s

theorem IsStray.not_mem {s : Text} (h : IsStray s) {c : Char} (hc : c ≠ '}')
    (hblank : Text.isBlank c = false) : c ∉ s := by
  intro hm
  rcases h c hm with rfl | hb
  · exact hc rfl
  · rw [hblank] at hb
    cases hb

theorem openBlocks_of_not_mem {s : Text} (h : '{' ∉ s) : openBlocks 0 s = 0 := by
  induction s with
  | nil => rfl
  | cons c s ih =>
    have hc : c ≠ '{' := fun he => h (he ▸ List.mem_cons_self ..)
    simp only [openBlocks, List.foldl_cons, if_neg hc, Nat.zero_sub, ite_self]
    exact ih fun hm => h (List.mem_cons_of_mem c hm)

theorem commentOpen_of_not_mem {s : Text} (h : '/' ∉ s) : commentOpen false s = false := by
  induction s with
  | nil => rfl
  | cons c s ih =>
    have hc : c ≠ '/' := fun he => h (he ▸ List.mem_cons_self ..)
    rw [commentOpen, ih fun hm => h (List.mem_cons_of_mem c hm)]
    exact fun _ he _ => hc he

theorem mask_of_not_mem {s : Text} (h : '/' ∉ s) : mask s = s := by
  have hplain : Text.cutAt? "/*" s = none :=
    (Text.cutAt?_eq_none_iff (by decide)).mpr fun hmark => h (hmark.subset (by decide))
  rw [mask_eq_maskFrom, maskFrom_false, hplain]

/-- A segment of blanks has no spots. -/
theorem spots_of_blank {p : Placed} (h : ∀ c ∈ p.segment.text, Text.isBlank c = true) :
    p.spots = [] := by
  have hstrip : Text.stripLeft p.segment.text = [] := List.dropWhile_eq_nil_iff.mpr h
  unfold Placed.spots
  rw [hstrip]

/-- Nothing is mentioned among stray braces. -/
theorem mentions_of_isStray {a : Text} (h : IsStray a) : mentions a = [] := by
  apply List.flatMap_eq_nil_iff.mpr
  intro p hp
  obtain ⟨i, s, -, hs, hseg⟩ := exists_of_mem_placedLines hp
  obtain ⟨inside, raw, hraw, rfl⟩ := exists_of_getElem?_maskLines hs
  obtain ⟨o, -, htext⟩ := prefix_of_mem_segments hseg
  have hblank : ∀ c ∈ p.segment.text, Text.isBlank c = true := by
    intro c hc
    obtain ⟨k, hk⟩ := List.mem_iff_getElem?.mp (List.mem_of_mem_drop (htext.subset hc))
    rcases getElem?_maskLine hk with rfl | hmem
    · decide
    · have hline := Text.mem_of_mem_lines (List.mem_of_getElem? hraw) (List.mem_of_getElem? hmem)
      -- A closing brace would have ended the segment.
      refine (h c hline).resolve_left ?_
      rintro rfl
      exact absurd (free_of_mem_segments hseg _ hc) (by decide)
  rw [Placed.mentions, spots_of_blank hblank]
  rfl

/-- **Style sheets can be put one below the other.** What stands below is scanned with the comment and the
blocks that are open behind the text above, and with nothing else of it. If none is open, both report what
they report alone, the lower one further down. So stray braces above a style sheet only move it. -/
theorem scan_below (a b : Text) (index : Index) (hreturn : a.getLast? ≠ some '\r') :
    scan (a ++ '\n' :: b) index =
      scan a index ++ scanLines index (Text.lines a).length (openBlocks 0 (mask a))
        (maskLines (commentOpen false a) (Text.lines b)) ∧
    (commentOpen false a = false → openBlocks 0 (mask a) = 0 →
      scan (a ++ '\n' :: b) index =
        scan a index ++ (scan b index).map (Finding.move (Position.down (Text.lines a).length))) ∧
    (IsStray a → scan (a ++ '\n' :: b) index =
      (scan b index).map (Finding.move (Position.down (Text.lines a).length))) := by
  have hgoes := scan_eq_append_scanLines hreturn b index
  have hanew : commentOpen false a = false → openBlocks 0 (mask a) = 0 →
      scan (a ++ '\n' :: b) index =
        scan a index ++ (scan b index).map (Finding.move (Position.down (Text.lines a).length)) := by
    intro hcomment hblocks
    rw [hgoes, hcomment, hblocks, scanLines_down]
  refine ⟨hgoes, hanew, fun hstray => ?_⟩
  have hslash : '/' ∉ a := hstray.not_mem (by decide) (by decide)
  have hopen : '{' ∉ a := hstray.not_mem (by decide) (by decide)
  have hnone : scan a index = [] := by
    rw [scan_eq_mentions, mentions_of_isStray hstray]
    rfl
  rw [hanew (commentOpen_of_not_mem hslash) (by rw [mask_of_not_mem hslash, openBlocks_of_not_mem hopen]),
    hnone, List.nil_append]

/-- A rule and a comment with a brace in it above another rule, and stray braces above that. -/
theorem scan_below_gap :
    let a : Text := "\x7da\x7bgap:1px\x7d\x7d\n/*\x7b*/"
    let b : Text := "a\x7b\ngap:2px\x7d"
    let stray : Text := "\x7d\r\n\x7d "
    let index : Index := { markup := [("gap", { id := "gap", name := [], status := .limited })] }
    (a.getLast? ≠ some '\r' ∧ commentOpen false a = false ∧ openBlocks 0 (mask a) = 0 ∧
      scan (a ++ '\n' :: b) index =
        scan a index ++ (scan b index).map (Finding.move (Position.down (Text.lines a).length)) ∧
      scan (a ++ '\n' :: b) index = [⟨Range.onLine 0 3 6, .limited, "gap", "gap"⟩,
        ⟨Range.onLine 3 0 3, .limited, "gap", "gap"⟩]) ∧
    stray.getLast? ≠ some '\r' ∧ IsStray stray ∧
      scan (stray ++ '\n' :: b) index =
        (scan b index).map (Finding.move (Position.down (Text.lines stray).length)) ∧
      scan (stray ++ '\n' :: b) index = [⟨Range.onLine 3 0 3, .limited, "gap", "gap"⟩] := by
  intro a b stray index
  have ha : a.getLast? ≠ some '\r' := by decide
  have hcomment : commentOpen false a = false := by decide
  have hblocks : openBlocks 0 (mask a) = 0 := by
    rw [mask_eq_maskFrom]
    decide
  have hstray : IsStray stray := by decide
  exact ⟨⟨ha, hcomment, hblocks, (scan_below a b index ha).2.1 hcomment hblocks, by decide +kernel⟩,
    by decide, hstray, (scan_below stray b index (by decide)).2.2 hstray, by decide +kernel⟩

end WebBaseline.Stylesheet
