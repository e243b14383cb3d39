import WebBaseline.Proofs.Stylesheet.Comment
import WebBaseline.Proofs.Text.Search
import WebBaseline.Stylesheet.Scan

/-! Comments of a whole style sheet.

`mask` takes the comments of a style sheet from the whole text: each one runs from an opening mark to the
first closing mark behind it, over as many lines as it likes, and only its line breaks stay. The scan
never does this. It masks one line at a time and carries over whether a comment is open.

`maskLines_eq_lines_mask` says that the two agree. `maskFrom` stands between them: it masks a text
character by character, which can be followed from mark to mark (`mask_eq_maskFrom`) as well as from line
to line (`lines_maskFrom`). -/
namespace WebBaseline.Stylesheet

/-! ### Comments of a text -/

/-- What masking leaves of the character `c` of a comment, with `behind` behind it: a character of a
line break stays, and every other one becomes a space. -/
def blankAt (c : Char) (behind : Text) : Char :=
  if c = '\n' ∨ c = '\r' ∧ behind.head? = some '\n' then c else ' '

/-- What masking leaves of a comment. -/
def blankComment : Text → Text
  | [] => []
  | c :: s => blankAt c s :: blankComment s

/-- The style sheet with its comments masked. A comment runs from the first opening mark to the first
closing mark behind that, or else to the end. -/
def mask (text : Text) : Text :=
  match hopen : Text.cutAt? "/*" text with
  | none => text
  | some (before, behind) =>
    match hclose : Text.cutAt? "*/" behind with
    | none => before ++ blankComment ("/*" ++ behind)
    | some (inner, rest) =>
      have : rest.length < text.length :=
        Nat.lt_trans (Text.length_lt_of_cutAt? hclose (by decide))
          (Text.length_lt_of_cutAt? hopen (by decide))
      before ++ (blankComment ("/*" ++ inner ++ "*/") ++ mask rest)
termination_by text.length

/-- Masks the comments of a text; `inside` says whether a comment is open where it starts. -/
def maskFrom : (inside : Bool) → Text → Text
  | _, [] => []
  | true, '*' :: '/' :: s => ' ' :: ' ' :: maskFrom false s
  | true, c :: s => blankAt c s :: maskFrom true s
  | false, '/' :: '*' :: s => ' ' :: ' ' :: maskFrom true s
  | false, c :: s => c :: maskFrom false s

/-! ### From mark to mark -/

theorem exists_of_startsWith_pair {a b c : Char} {s : Text}
    (h : Text.startsWith (c :: s) [a, b] = true) : ∃ rest, c = a ∧ s = b :: rest := by
  obtain ⟨rest, hrest⟩ := Text.startsWith_iff.mp h
  exact ⟨rest, List.cons.inj hrest⟩

theorem not_mark_of_startsWith {a b c : Char} {s : Text}
    (h : ¬ Text.startsWith (c :: s) [a, b] = true) : ∀ rest, c = a → s = b :: rest → False :=
  fun rest ha hb => h (Text.startsWith_iff.mpr ⟨rest, by rw [ha, hb]; rfl⟩)

/-- Outside of comments nothing changes up to the first opening mark. -/
theorem maskFrom_false (text : Text) :
    maskFrom false text = match Text.cutAt? "/*" text with
      | none => text
      | some (before, behind) => before ++ ' ' :: ' ' :: maskFrom true behind := by
  induction text with
  | nil => rfl
  | cons c s ih =>
    rw [Text.cutAt?_cons]
    by_cases h : Text.startsWith (c :: s) "/*"
    · obtain ⟨rest, rfl, rfl⟩ := exists_of_startsWith_pair h
      rfl
    · rw [if_neg h, maskFrom.eq_5 _ _ (not_mark_of_startsWith h), ih]
      cases Text.cutAt? "/*" s <;> rfl

theorem blankAt_append (c : Char) {b : Text} (hb : b ≠ []) (t : Text) :
    blankAt c (b ++ t) = blankAt c b := by
  cases b with
  | nil => exact absurd rfl hb
  | cons d b => rfl

/-- Inside a comment everything is blanked up to the first closing mark and with it. -/
theorem maskFrom_true (text : Text) :
    maskFrom true text = match Text.cutAt? "*/" text with
      | none => blankComment text
      | some (inner, rest) => blankComment (inner ++ "*/") ++ maskFrom false rest := by
  induction text with
  | nil => rfl
  | cons c s ih =>
    rw [Text.cutAt?_cons]
    by_cases h : Text.startsWith (c :: s) "*/"
    · obtain ⟨rest, rfl, rfl⟩ := exists_of_startsWith_pair h
      rfl
    · rw [if_neg h, maskFrom.eq_3 _ _ (not_mark_of_startsWith h), ih]
      cases hcut : Text.cutAt? "*/" s with
      | none => rfl
      | some cut =>
        -- What is left of `c` depends on the next character, which the cut keeps behind it.
        have hs := Text.append_of_cutAt? hcut
        rw [← List.append_assoc] at hs
        have hchar : blankAt c s = blankAt c (cut.1 ++ "*/") := by
          rw [hs]
          exact blankAt_append c (List.append_ne_nil_of_right_ne_nil _ (by decide)) _
        rw [hchar]
        rfl

theorem mask_eq_maskFrom (text : Text) : mask text = maskFrom false text := by
  fun_induction mask text with
  | case1 text h => rw [maskFrom_false, h]
  | case2 text before behind hopen hclose =>
    rw [maskFrom_false, hopen]
    simp only [maskFrom_true, hclose]
    rfl
  | case3 text before behind hopen inner rest hclose hlt ih =>
    rw [maskFrom_false, hopen]
    simp only [maskFrom_true, hclose, ih]
    rfl

/-! ### From line to line -/

/-- `b` is (the end of) a line, without its break, and `t` is what follows: its break, or nothing. -/
structure LineBefore (b t : Text) : Prop where
  free : '\n' ∉ b
  whole : b.getLast? = some '\r' → t.head? ≠ some '\n'
  plain : ∀ c ∈ t.head?, IsPlain c

namespace LineBefore

variable {c : Char} {b t : Text}

theorem tail (h : LineBefore (c :: b) t) : LineBefore b t where
  free := fun hm => h.free (List.mem_cons_of_mem c hm)
  whole := fun hl => h.whole (by rw [List.getLast?_cons, hl]; rfl)
  plain := h.plain

/-- No character of the line belongs to a break. -/
theorem blankAt_eq (h : LineBefore (c :: b) t) : blankAt c (b ++ t) = ' ' := by
  apply if_neg
  rintro (rfl | ⟨rfl, hbreak⟩)
  · exact h.free (List.mem_cons_self ..)
  · cases b with
    | nil => exact h.whole rfl hbreak
    | cons d b =>
      obtain rfl : d = '\n' := by simpa using hbreak
      exact h.free (by simp)

/-- No mark reaches over the end of the line. -/
theorem not_mark {d x y : Char} (h : LineBefore b t) (hd : ∀ u, d = x → b = y :: u → False)
    (hy : ¬ IsPlain y) : ∀ u, d = x → b ++ t = y :: u → False := by
  cases t with
  | nil => simpa using hd
  | cons c s => exact not_mark_append hd (fun hc => hy (hc ▸ h.plain c rfl)) s

end LineBefore

theorem maskFrom_append {inside : Bool} {b t : Text} (h : LineBefore b t) :
    maskFrom inside (b ++ t) = (maskLine inside b).1 ++ maskFrom (commentOpen inside b) t := by
  fun_induction commentOpen inside b with
  | case1 => rfl
  | case2 b ih => exact congrArg (' ' :: ' ' :: ·) (ih h.tail.tail)
  | case3 d b hd ih =>
    rw [List.cons_append, maskFrom.eq_3 _ _ (h.tail.not_mark hd (by decide)), maskLine_inside hd,
      h.blankAt_eq, ih h.tail]
    rfl
  | case4 b ih => exact congrArg (' ' :: ' ' :: ·) (ih h.tail.tail)
  | case5 d b hd ih =>
    rw [List.cons_append, maskFrom.eq_5 _ _ (h.tail.not_mark hd (by decide)), maskLine_outside hd,
      ih h.tail]
    rfl

theorem maskFrom_feed (inside : Bool) (s : Text) :
    maskFrom inside ('\n' :: s) = '\n' :: maskFrom inside s := by
  cases inside <;> rfl

theorem maskFrom_return (inside : Bool) (s : Text) :
    maskFrom inside ('\r' :: '\n' :: s) = '\r' :: '\n' :: maskFrom inside s := by
  cases inside <;> rfl

theorem lines_maskFrom (inside : Bool) (text : Text) :
    Text.lines (maskFrom inside text) = maskLines inside (Text.lines text) := by
  induction text using Text.lineInduction generalizing inside with
  | last s h =>
    have hmask : maskFrom inside (s ++ []) = (maskLine inside s).1 ++ [] :=
      maskFrom_append ⟨h, by simp, by simp⟩
    rw [List.append_nil, List.append_nil] at hmask
    rw [hmask, Text.lines_free (not_mem_maskLine (by decide) h), Text.lines_free h]
    rfl
  | line a s h ih =>
    rw [Text.lines_line h, maskLines_cons, ← ih]
    by_cases hr : a.getLast? = some '\r'
    · -- The line feed and the return before it are one break.
      obtain ⟨b, rfl⟩ := List.getLast?_eq_some_iff.mp hr
      have hb : '\n' ∉ b := fun hm => h (List.mem_append_left _ hm)
      have hmask : '\n' ∉ (maskLine inside b).1 := not_mem_maskLine (by decide) hb
      have hmasked : '\n' ∉ (maskLine inside b).1 ++ ['\r'] := by simp [hmask]
      have hline := Text.lines_line hmasked (maskFrom (commentOpen inside b) s)
      rw [List.append_assoc, List.singleton_append, Text.dropReturn_concat] at hline
      rw [List.append_assoc, List.singleton_append, Text.dropReturn_concat,
        maskFrom_append ⟨hb, by simp, by simp [IsPlain]⟩, maskFrom_return, hline]
    · have hdrop : Text.dropReturn a = a := by rw [Text.dropReturn_eq, if_neg hr]
      have hmasked : Text.dropReturn (maskLine inside a).1 = (maskLine inside a).1 := by
        rw [Text.dropReturn_eq, if_neg (getLast?_maskLine_ne (by decide) hr)]
      rw [maskFrom_append ⟨h, fun hl => absurd hl hr, by simp [IsPlain]⟩, maskFrom_feed,
        Text.lines_line (not_mem_maskLine (by decide) h), hmasked, hdrop]

theorem lines_mask (text : Text) : Text.lines (mask text) = maskLines false (Text.lines text) := by
  rw [mask_eq_maskFrom, lines_maskFrom]

/-! ### Masking again -/

theorem blankAt_ne_slash (c : Char) (s : Text) : blankAt c s ≠ '/' := by
  unfold blankAt
  split
  · rename_i h
    rcases h with rfl | ⟨rfl, -⟩ <;> decide
  · decide

/-- A star at the front of a masked text was there before. -/
theorem exists_of_maskFrom_star {s t : Text} (h : maskFrom false s = '*' :: t) :
    ∃ u, s = '*' :: u := by
  cases s with
  | nil => cases h
  | cons c s =>
    by_cases hmark : Text.startsWith (c :: s) "/*"
    · obtain ⟨rest, rfl, rfl⟩ := exists_of_startsWith_pair hmark
      cases h
    · rw [maskFrom.eq_5 _ _ (not_mark_of_startsWith hmark)] at h
      exact ⟨s, by rw [(List.cons.inj h).1]⟩

/-- Masked text has no comments. -/
theorem maskFrom_maskFrom (inside : Bool) (text : Text) :
    maskFrom false (maskFrom inside text) = maskFrom inside text := by
  fun_induction maskFrom inside text with
  | case1 => rfl
  | case2 s ih => exact congrArg (' ' :: ' ' :: ·) ih
  | case3 c s hc ih =>
    rw [maskFrom.eq_5 _ _ fun _ hslash _ => blankAt_ne_slash c s hslash, ih]
  | case4 s ih => exact congrArg (' ' :: ' ' :: ·) ih
  | case5 c s hc ih =>
    rw [maskFrom.eq_5, ih]
    intro t hslash hstar
    obtain ⟨u, hu⟩ := exists_of_maskFrom_star hstar
    exact hc u hslash hu

theorem mask_mask (text : Text) : mask (mask text) = mask text := by
  rw [mask_eq_maskFrom, mask_eq_maskFrom, maskFrom_maskFrom]

theorem maskLines_lines_mask (text : Text) :
    maskLines false (Text.lines (mask text)) = Text.lines (mask text) := by
  rw [← lines_mask, mask_mask]

/-- **Masking line by line is masking the whole text.** The lines keep their lengths, what is masked
stays as it is, and a scan reads nothing of what the comments say. -/
theorem maskLines_eq_lines_mask (text : Text) :
    maskLines false (Text.lines text) = Text.lines (mask text) ∧
      (maskLines false (Text.lines text)).map List.length = (Text.lines text).map List.length ∧
      mask (mask text) = mask text ∧
      maskLines false (maskLines false (Text.lines text)) = maskLines false (Text.lines text) ∧
      ∀ index, scan text index = scan (mask text) index := by
  refine ⟨(lines_mask text).symm, map_length_maskLines false _, mask_mask text, ?_, fun index => ?_⟩
  · rw [← lines_mask, maskLines_lines_mask]
  · unfold scan
    rw [maskLines_lines_mask, lines_mask]

/-- The star of an opening mark does not close the comment, the slash of a closing mark does not open the
next one, and a return that is not before a line feed is blanked. -/
example : mask "a/*/\r\n\r*/*b/*" = "a   \r\n   *b  " := by
  rw [mask_eq_maskFrom]
  decide

end WebBaseline.Stylesheet
