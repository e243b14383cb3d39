import WebBaseline.Text.Line

/-! Texts piece by piece.

A text is either free of cutting characters, or it is a piece that is, a cutting character, and a text:
`pieceInduction` is the induction that follows, and `lineInduction` is the one for line feeds. On these
two forms the cuts of a text are plain equations (`splitBy_piece`, `lines_line`), and so is the position
that reading it leads to. -/
namespace WebBaseline.Text

/-! ### Pieces -/

@[elab_as_elim]
theorem pieceInduction (p : Char → Bool) {motive : Text → Prop}
    (last : ∀ s, (∀ x ∈ s, p x = false) → motive s)
    (cut : ∀ a c s, (∀ x ∈ a, p x = false) → p c = true → motive s → motive (a ++ c :: s))
    (s : Text) : motive s := by
  -- The induction is on the length, since the text behind the first cut is not a tail of one step.
  induction hn : s.length using Nat.strongRecOn generalizing s with
  | _ n ih =>
    have hfree : ∀ x ∈ s.takeWhile (!p ·), p x = false := fun x hx => by
      simpa using List.all_eq_true.mp (List.all_takeWhile (p := (!p ·))) x hx
    have hs := List.takeWhile_append_dropWhile (p := (!p ·)) (l := s)
    cases hd : s.dropWhile (!p ·) with
    | nil =>
      rw [hd, List.append_nil] at hs
      exact last s (hs ▸ hfree)
    | cons c rest =>
      have hc : p c = true := by
        have := List.head_dropWhile_not (!p ·) (l := s) (by rw [hd]; exact List.cons_ne_nil _ _)
        simpa [hd] using this
      rw [hd] at hs
      have hlen := congrArg List.length hs
      rw [List.length_append, List.length_cons] at hlen
      rw [← hs]
      exact cut _ c rest hfree hc (ih rest.length (by omega) rest rfl)

theorem splitBy_free {p : Char → Bool} {s : Text} (h : ∀ x ∈ s, p x = false) :
    splitBy p s = [s] := by
  induction s with
  | nil => rfl
  | cons c s ih =>
    have hc : p c = false := h c (List.mem_cons_self ..)
    simp [splitBy, hc, ih fun x hx => h x (List.mem_cons_of_mem _ hx)]

theorem splitBy_piece {p : Char → Bool} {a : Text} {c : Char} (h : ∀ x ∈ a, p x = false)
    (hc : p c = true) (s : Text) : splitBy p (a ++ c :: s) = a :: splitBy p s := by
  induction a with
  | nil => simp [splitBy, hc]
  | cons b a ih =>
    have hb : p b = false := h b (List.mem_cons_self ..)
    simp [splitBy, hb, ih fun x hx => h x (List.mem_cons_of_mem _ hx)]

theorem splitBy_ne_nil (p : Char → Bool) (s : Text) : splitBy p s ≠ [] := by
  induction s using pieceInduction p with
  | last s h => simp [splitBy_free h]
  | cut a c s h hc => simp [splitBy_piece h hc]

/-- No piece has a cutting character. -/
theorem free_of_mem_splitBy {p : Char → Bool} {s piece : Text} (h : piece ∈ splitBy p s) :
    ∀ x ∈ piece, p x = false := by
  induction s using pieceInduction p with
  | last s hs =>
    rw [splitBy_free hs] at h
    rwa [List.mem_singleton.mp h]
  | cut a c s ha hc ih =>
    rw [splitBy_piece ha hc] at h
    rcases List.mem_cons.mp h with rfl | h
    · exact ha
    · exact ih h

/-- A text without a character is free of it. -/
theorem not_mem_iff_free {c : Char} {s : Text} : c ∉ s ↔ ∀ x ∈ s, (x == c) = false := by
  constructor
  · intro h x hx
    exact beq_eq_false_iff_ne.mpr fun he => h (he ▸ hx)
  · intro h hm
    simpa using h c hm

/-! ### Runs -/

theorem takeWhile_run {p : Char → Bool} {a : Text} {c : Char} (h : ∀ x ∈ a, p x = true)
    (hc : p c = false) (s : Text) : (a ++ c :: s).takeWhile p = a := by
  rw [List.takeWhile_append_of_pos h, List.takeWhile_cons_of_neg (by simp [hc]), List.append_nil]

theorem dropWhile_run {p : Char → Bool} {a : Text} {c : Char} (h : ∀ x ∈ a, p x = true)
    (hc : p c = false) (s : Text) : (a ++ c :: s).dropWhile p = c :: s := by
  rw [List.dropWhile_append_of_pos h, List.dropWhile_cons_of_neg (by simp [hc])]

theorem mem_dropWhile {p : Char → Bool} {s : Text} {c : Char} (hc : c ∈ s) (h : p c = false) :
    c ∈ s.dropWhile p := by
  rw [← List.takeWhile_append_dropWhile (p := p) (l := s)] at hc
  rcases List.mem_append.mp hc with hrun | hrest
  · rw [List.all_eq_true.mp List.all_takeWhile c hrun] at h
    cases h
  · exact hrest

/-- A run that ends within a text does not see what follows the text. -/
theorem dropWhile_append_of_mem {p : Char → Bool} {s : Text} {c : Char} (hc : c ∈ s)
    (h : p c = false) (t : Text) : (s ++ t).dropWhile p = s.dropWhile p ++ t := by
  rw [List.dropWhile_append, if_neg]
  intro hempty
  have hrest := mem_dropWhile hc h
  rw [List.isEmpty_iff.mp hempty] at hrest
  cases hrest

theorem takeWhile_append_of_mem {p : Char → Bool} {s : Text} {c : Char} (hc : c ∈ s)
    (h : p c = false) (t : Text) : (s ++ t).takeWhile p = s.takeWhile p := by
  have hwhole := List.takeWhile_append_dropWhile (p := p) (l := s ++ t)
  have hfront := List.takeWhile_append_dropWhile (p := p) (l := s)
  rw [dropWhile_append_of_mem hc h, ← List.append_assoc] at hwhole
  exact List.append_cancel_right ((List.append_cancel_right hwhole).trans hfront.symm)

/-- The first cut of a text is where it is in one way only. -/
theorem eq_of_piece_eq {p : Char → Bool} {a b s t : Text} {c d : Char}
    (ha : ∀ x ∈ a, p x = false) (hb : ∀ x ∈ b, p x = false) (hc : p c = true) (hd : p d = true)
    (h : a ++ c :: s = b ++ d :: t) : a = b ∧ c = d ∧ s = t := by
  have hab : a = b := by
    have hrun := congrArg (List.takeWhile (!p ·)) h
    rwa [takeWhile_run (by simpa using ha) (by simp [hc]),
      takeWhile_run (by simpa using hb) (by simp [hd])] at hrun
  subst hab
  exact ⟨rfl, List.cons.inj (List.append_cancel_left h)⟩

/-! ### Joined texts -/

theorem join_cons {rest : List Text} (h : rest ≠ []) (sep s : Text) :
    join sep (s :: rest) = s ++ sep ++ join sep rest := by
  cases rest with
  | nil => exact absurd rfl h
  | cons => rfl

theorem join_eq_flatMap (sep : Char) (s : Text) (rest : List Text) :
    join [sep] (s :: rest) = s ++ rest.flatMap (sep :: ·) := by
  induction rest generalizing s with
  | nil => rw [join, List.flatMap_nil, List.append_nil]
  | cons t rest ih =>
    rw [join_cons (List.cons_ne_nil t rest), ih, List.append_assoc, List.flatMap_cons]
    rfl

/-- The pieces of a text, joined with what separates them, are the text. -/
theorem join_splitOn (sep : Char) (s : Text) : join [sep] (splitOn sep s) = s := by
  unfold splitOn
  induction s using pieceInduction (· == sep) with
  | last s h => rw [splitBy_free h, join]
  | cut a c s h hc ih =>
    rw [splitBy_piece h hc, join_cons (splitBy_ne_nil _ s), ih, beq_iff_eq.mp hc,
      List.append_assoc, List.singleton_append]

theorem splitBy_append {p : Char → Bool} {c : Char} (hc : p c = true) (a s : Text) :
    splitBy p (a ++ c :: s) = splitBy p a ++ splitBy p s := by
  induction a using pieceInduction p with
  | last a h => rw [splitBy_piece h hc, splitBy_free h, List.singleton_append]
  | cut a d b h hd ih =>
    rw [List.append_assoc, List.cons_append, splitBy_piece h hd, splitBy_piece h hd, ih,
      List.cons_append]

theorem splitOn_append (sep : Char) (a s : Text) :
    splitOn sep (a ++ sep :: s) = splitOn sep a ++ splitOn sep s :=
  splitBy_append (p := (· == sep)) (beq_self_eq_true sep) a s

/-- Joined texts come apart at what joins them, and wherever else they have it. -/
theorem splitOn_join (sep : Char) (s : Text) (rest : List Text) :
    splitOn sep (join [sep] (s :: rest)) = (s :: rest).flatMap (splitOn sep) := by
  induction rest generalizing s with
  | nil => rw [join, List.flatMap_singleton]
  | cons t rest ih =>
    rw [join_cons (List.cons_ne_nil t rest), List.append_assoc, List.singleton_append, splitOn_append, ih t,
      ← List.flatMap_cons]

theorem splitOn_eq_singleton_iff {sep : Char} {s : Text} : splitOn sep s = [s] ↔ sep ∉ s := by
  rw [not_mem_iff_free]
  exact ⟨fun h => free_of_mem_splitBy (h ▸ List.mem_singleton_self s), splitBy_free⟩

/-- Texts come apart into as many pieces as there are texts only if none of them has the separator. -/
theorem length_flatMap_splitOn {sep : Char} (texts : List Text) :
    texts.length ≤ (texts.flatMap (splitOn sep)).length ∧
      ((texts.flatMap (splitOn sep)).length = texts.length → ∀ s ∈ texts, sep ∉ s) := by
  induction texts with
  | nil => simp
  | cons s rest ih =>
    obtain ⟨hle, heq⟩ := ih
    have hpos := List.length_pos_iff.mpr (splitBy_ne_nil (· == sep) s)
    rw [List.flatMap_cons, List.length_append, List.length_cons]
    refine ⟨by rw [splitOn]; omega, fun h => ?_⟩
    have hone : (splitOn sep s).length = 1 := by rw [splitOn] at h ⊢; omega
    obtain ⟨piece, hpiece⟩ := List.length_eq_one_iff.mp hone
    have hsame := join_splitOn sep s
    rw [hpiece, join] at hsame
    refine List.forall_mem_cons.mpr ⟨?_, heq (by omega)⟩
    rw [← splitOn_eq_singleton_iff, hpiece, hsame]

theorem flatMap_splitOn {sep : Char} {texts : List Text} (h : ∀ s ∈ texts, sep ∉ s) :
    texts.flatMap (splitOn sep) = texts := by
  induction texts with
  | nil => rfl
  | cons s rest ih =>
    obtain ⟨hs, hrest⟩ := List.forall_mem_cons.mp h
    rw [List.flatMap_cons, splitOn_eq_singleton_iff.mpr hs, ih hrest, List.singleton_append]

/-! ### Lines -/

@[elab_as_elim]
theorem lineInduction {motive : Text → Prop} (last : ∀ s, '\n' ∉ s → motive s)
    (line : ∀ a s, '\n' ∉ a → motive s → motive (a ++ '\n' :: s)) (s : Text) : motive s := by
  induction s using pieceInduction (· == '\n') with
  | last s h => exact last s (not_mem_iff_free.mpr h)
  | cut a c s h hc ih =>
    rw [beq_iff_eq.mp hc]
    exact line a s (not_mem_iff_free.mpr h) ih

theorem lines_free {s : Text} (h : '\n' ∉ s) : lines s = [s] := by
  unfold lines splitOn
  rw [splitBy_free (not_mem_iff_free.mp h)]
  rfl

theorem lines_line {a : Text} (h : '\n' ∉ a) (s : Text) :
    lines (a ++ '\n' :: s) = dropReturn a :: lines s := by
  unfold lines splitOn
  rw [splitBy_piece (not_mem_iff_free.mp h) (by decide)]
  cases hs : splitBy (· == '\n') s with
  | nil => exact absurd hs (splitBy_ne_nil _ s)
  | cons b rest => rfl

theorem dropReturn_eq (s : Text) :
    dropReturn s = if s.getLast? = some '\r' then s.dropLast else s := by
  unfold dropReturn
  split
  · rename_i h
    rw [if_pos h]
  · rename_i h
    rw [if_neg h]

theorem dropReturn_concat (s : Text) : dropReturn (s ++ ['\r']) = s := by
  rw [dropReturn_eq, if_pos List.getLast?_concat, List.dropLast_concat]

theorem dropReturn_append {c : Char} (hc : c ≠ '\r') (a b : Text) :
    dropReturn (a ++ c :: b) = a ++ c :: dropReturn b := by
  rw [dropReturn_eq, dropReturn_eq]
  cases b with
  | nil => simp [hc]
  | cons d b =>
    have hlast : (a ++ c :: d :: b).getLast? = (d :: b).getLast? := by
      simp [List.getLast?_cons]
    rw [hlast]
    split <;> simp

theorem mem_of_mem_dropReturn {s : Text} {c : Char} (h : c ∈ dropReturn s) : c ∈ s := by
  rw [dropReturn_eq] at h
  split at h
  · exact s.dropLast_subset h
  · exact h

theorem mem_of_mem_lines {s line : Text} (h : line ∈ lines s) {c : Char} (hc : c ∈ line) : c ∈ s := by
  induction s using lineInduction with
  | last s hs =>
    rw [lines_free hs] at h
    rwa [← List.mem_singleton.mp h]
  | line a s ha ih =>
    rw [lines_line ha] at h
    rcases List.mem_cons.mp h with rfl | h
    · exact List.mem_append_left _ (mem_of_mem_dropReturn hc)
    · exact List.mem_append_right _ (List.mem_cons_of_mem _ (ih h))

/-- What stands before a character that is no part of a break belongs to the same line. -/
theorem lines_append {a : Text} {c : Char} (ha : '\n' ∉ a) (hn : c ≠ '\n') (hr : c ≠ '\r')
    (s : Text) : ∃ b rest, lines s = b :: rest ∧ lines (a ++ c :: s) = (a ++ c :: b) :: rest := by
  induction s using lineInduction with
  | last s h =>
    refine ⟨s, [], lines_free h, lines_free ?_⟩
    simp [ha, hn.symm, h]
  | line b s h =>
    refine ⟨dropReturn b, lines s, lines_line h s, ?_⟩
    have hfree : '\n' ∉ a ++ c :: b := by simp [ha, hn.symm, h]
    rw [← dropReturn_append hr, ← lines_line hfree, List.append_assoc, List.cons_append]

/-! ### Positions -/

theorem advance_append (p : Position) (a b : Text) : advance p (a ++ b) = advance (advance p a) b := by
  induction a generalizing p with
  | nil => rfl
  | cons c a ih => exact ih _

theorem advance_free {a : Text} (h : '\n' ∉ a) (p : Position) :
    advance p a = ⟨p.line, p.column + a.length⟩ := by
  induction a generalizing p with
  | nil => rfl
  | cons c a ih =>
    have hc : c ≠ '\n' := fun he => h (he ▸ List.mem_cons_self ..)
    simp only [advance, if_neg hc, ih fun hm => h (List.mem_cons_of_mem _ hm), List.length_cons]
    congr 1
    omega

theorem advance_line {a : Text} (h : '\n' ∉ a) (p : Position) (s : Text) :
    advance p (a ++ '\n' :: s) = advance ⟨p.line + 1, 0⟩ s := by
  rw [advance_append, advance_free h]
  rfl

theorem line_le_advance (p : Position) (s : Text) : p.line ≤ (advance p s).line := by
  induction s generalizing p with
  | nil => exact Nat.le_refl _
  | cons c s ih =>
    refine Nat.le_trans ?_ (ih _)
    split
    · exact Nat.le_succ _
    · exact Nat.le_refl _

end WebBaseline.Text
