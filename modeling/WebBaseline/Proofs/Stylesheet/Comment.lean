import WebBaseline.Proofs.Text.Pieces
import WebBaseline.Stylesheet.Comment

/-! Comments of a style sheet, seen from the text.

`commentOpen` reads a text and says whether a comment is open behind it: one opens at `/*` and closes at
the first `*/` behind that. Masking a line ends in the same state (`maskLine_snd`), writes nothing but
spaces (`getElem?_maskLine`), and at a character that is neither a slash nor a star it can be cut in two
(`maskLine_append`). -/
namespace WebBaseline.Stylesheet

/-- Whether a comment is open behind a text; `inside` says whether one is open before it. -/
def commentOpen : (inside : Bool) → Text → Bool
  | inside, [] => inside
  | true, '*' :: '/' :: s => commentOpen false s
  | true, _ :: s => commentOpen true s
  | false, '/' :: '*' :: s => commentOpen true s
  | false, _ :: s => commentOpen false s

theorem maskLine_snd (inside : Bool) (s : Text) : (maskLine inside s).2 = commentOpen inside s := by
  fun_induction maskLine inside s with
  | case1 => rfl
  | case2 s masked after h ih => rw [commentOpen, ← ih, h]
  | case3 c s hc masked after h ih => rw [commentOpen, ← ih, h]; exact hc
  | case4 s masked after h ih => rw [commentOpen, ← ih, h]
  | case5 c s hc masked after h ih => rw [commentOpen, ← ih, h]; exact hc

theorem length_maskLine (inside : Bool) (s : Text) : (maskLine inside s).1.length = s.length := by
  fun_induction maskLine inside s with
  | case1 => rfl
  | case2 s masked after h ih => rw [h] at ih; simp [ih]
  | case3 c s hc masked after h ih => rw [h] at ih; simp [ih]
  | case4 s masked after h ih => rw [h] at ih; simp [ih]
  | case5 c s hc masked after h ih => rw [h] at ih; simp [ih]

/-- If a character of a list is a space or the one that another list has there, and this holds of the
rests, it holds of the lists. -/
theorem getElem?_cons_masked {c d m : Char} {s t : Text} {i : Nat} (hm : m = ' ' ∨ m = d)
    (h : (m :: t)[i]? = some c) (ih : ∀ {i : Nat}, t[i]? = some c → c = ' ' ∨ s[i]? = some c) :
    c = ' ' ∨ (d :: s)[i]? = some c := by
  cases i with
  | zero =>
    obtain rfl : m = c := by simpa using h
    simpa [eq_comm] using hm
  | succ i => exact ih h

/-- A character of a masked line is a space or the one that stands there in the line. -/
theorem getElem?_maskLine {inside : Bool} {s : Text} {i : Nat} {c : Char}
    (h : (maskLine inside s).1[i]? = some c) : c = ' ' ∨ s[i]? = some c := by
  fun_induction maskLine inside s generalizing i with
  | case1 => exact .inr h
  | case2 s masked after hs ih =>
    rw [hs] at ih
    exact getElem?_cons_masked (.inl rfl) h fun h => getElem?_cons_masked (.inl rfl) h ih
  | case3 d s hd masked after hs ih =>
    rw [hs] at ih
    exact getElem?_cons_masked (.inl rfl) h ih
  | case4 s masked after hs ih =>
    rw [hs] at ih
    exact getElem?_cons_masked (.inl rfl) h fun h => getElem?_cons_masked (.inl rfl) h ih
  | case5 d s hd masked after hs ih =>
    rw [hs] at ih
    exact getElem?_cons_masked (.inr rfl) h ih

theorem not_mem_maskLine {inside : Bool} {s : Text} {c : Char} (hc : c ≠ ' ') (h : c ∉ s) :
    c ∉ (maskLine inside s).1 := by
  intro hm
  obtain ⟨i, hi⟩ := List.mem_iff_getElem?.mp hm
  rcases getElem?_maskLine hi with rfl | hs
  · exact hc rfl
  · exact h (List.mem_of_getElem? hs)

theorem getLast?_maskLine_ne {inside : Bool} {s : Text} {c : Char} (hc : c ≠ ' ')
    (h : s.getLast? ≠ some c) : (maskLine inside s).1.getLast? ≠ some c := by
  intro hl
  rw [List.getLast?_eq_getElem?, length_maskLine] at hl
  rcases getElem?_maskLine hl with rfl | hs
  · exact hc rfl
  · exact h (by rw [List.getLast?_eq_getElem?, hs])

/-! ### Cutting a text -/

/-- A character that can be no part of the marks of a comment. -/
def IsPlain (c : Char) : Prop :=
  c ≠ '/' ∧ c ≠ '*'

instance (c : Char) : Decidable (IsPlain c) :=
  inferInstanceAs (Decidable (_ ∧ _))

theorem commentOpen_plain {c : Char} (hc : IsPlain c) (inside : Bool) (s : Text) :
    commentOpen inside (c :: s) = commentOpen inside s := by
  cases inside with
  | true => rw [commentOpen]; exact fun _ h _ => hc.2 h
  | false => rw [commentOpen]; exact fun _ h _ => hc.1 h

/-- Two characters that do not start a mark still do not when a plain character follows. -/
theorem not_mark_append {c d x y : Char} {a : Text} (h : ∀ t, d = x → a = y :: t → False)
    (hc : c ≠ y) (s : Text) : ∀ t, d = x → a ++ c :: s = y :: t → False := by
  intro t hd ht
  cases a with
  | nil => exact hc (List.cons.inj ht).1
  | cons b a => exact h a hd (congrArg (· :: a) (List.cons.inj ht).1)

theorem commentOpen_append {c : Char} (hc : IsPlain c) (inside : Bool) (a s : Text) :
    commentOpen inside (a ++ c :: s) = commentOpen (commentOpen inside a) s := by
  fun_induction commentOpen inside a with
  | case1 => exact commentOpen_plain hc _ s
  | case2 a ih => exact ih
  | case3 d a hd ih =>
    rw [List.cons_append, commentOpen, ih]
    exact not_mark_append hd hc.1 s
  | case4 a ih => exact ih
  | case5 d a hd ih =>
    rw [List.cons_append, commentOpen, ih]
    exact not_mark_append hd hc.2 s

theorem maskLine_inside {d : Char} {s : Text} (h : ∀ t, d = '*' → s = '/' :: t → False) :
    (maskLine true (d :: s)).1 = ' ' :: (maskLine true s).1 := by
  rw [maskLine]
  exact h

theorem maskLine_outside {d : Char} {s : Text} (h : ∀ t, d = '/' → s = '*' :: t → False) :
    (maskLine false (d :: s)).1 = d :: (maskLine false s).1 := by
  rw [maskLine]
  exact h

/-- Behind a plain character that no comment covers, masking goes on as if the text began there. -/
theorem maskLine_append {c : Char} (hc : IsPlain c) {inside : Bool} {a : Text}
    (h : commentOpen inside a = false) (s : Text) :
    (maskLine inside (a ++ c :: s)).1 = (maskLine inside a).1 ++ c :: (maskLine false s).1 := by
  fun_induction commentOpen inside a with
  | case1 =>
    rw [h]
    exact maskLine_outside fun _ h _ => hc.1 h
  | case2 a ih => exact congrArg (' ' :: ' ' :: ·) (ih h)
  | case3 d a hd ih =>
    rw [List.cons_append, maskLine_inside (not_mark_append hd hc.1 s), maskLine_inside hd, ih h]
    rfl
  | case4 a ih => exact congrArg (' ' :: ' ' :: ·) (ih h)
  | case5 d a hd ih =>
    rw [List.cons_append, maskLine_outside (not_mark_append hd hc.2 s), maskLine_outside hd, ih h]
    rfl

/-! ### Lines -/

theorem maskLines_cons (inside : Bool) (s : Text) (rest : List Text) :
    maskLines inside (s :: rest) =
      (maskLine inside s).1 :: maskLines (commentOpen inside s) rest := by
  rw [← maskLine_snd]
  rfl

theorem map_length_maskLines (inside : Bool) (ls : List Text) :
    (maskLines inside ls).map List.length = ls.map List.length := by
  induction ls generalizing inside with
  | nil => rfl
  | cons s rest ih => rw [maskLines_cons, List.map_cons, List.map_cons, length_maskLine, ih]

/-- The carriage return of a break makes no difference to comments. -/
theorem commentOpen_dropReturn (inside : Bool) (s : Text) :
    commentOpen inside (Text.dropReturn s) = commentOpen inside s := by
  rw [Text.dropReturn_eq]
  split
  · rename_i h
    obtain ⟨a, rfl⟩ := List.getLast?_eq_some_iff.mp h
    rw [List.dropLast_concat, commentOpen_append (by decide)]
    rfl
  · rfl

/-! ### Next to what is masked -/

/-- What a masked line starts with. -/
theorem head_maskLine (inside : Bool) (s : Text) {c : Char} (h : (maskLine inside s).1[0]? = some c) :
    if inside then c = ' ' else s[0]? = some c ∨ s[0]? = some '/' := by
  fun_cases maskLine inside s with
  | case1 => cases h
  | case2 s masked after hs =>
    rw [maskLine, hs] at h
    exact (Option.some.inj h).symm
  | case3 d s hd masked after hs =>
    rw [maskLine_inside hd] at h
    exact (Option.some.inj h).symm
  | case4 s masked after hs => exact .inr rfl
  | case5 d s hd masked after hs =>
    rw [maskLine_outside hd] at h
    exact .inl h

/-- Directly before a character that is not masked stands what the masked line has there, or the end of a
comment. -/
theorem getElem?_before_visible {inside : Bool} {s : Text} {i : Nat} {x c : Char}
    (hx : (maskLine inside s).1[i]? = some x) (hc : (maskLine inside s).1[i + 1]? = some c) (hne : c ≠ ' ') :
    s[i]? = some x ∨ s[i]? = some '/' := by
  fun_induction maskLine inside s generalizing i with
  | case1 => cases hx
  | case2 s masked after h ih =>
    rw [h] at ih
    match i with
    | 0 => exact absurd (Option.some.inj hc).symm hne
    | 1 => exact .inr rfl
    | i + 2 => exact ih hx hc
  | case3 d s hd masked after h ih =>
    rw [h] at ih
    match i with
    | 0 =>
      have hspace : c = ' ' := head_maskLine true s (by rw [h]; exact hc)
      exact absurd hspace hne
    | i + 1 => exact ih hx hc
  | case4 s masked after h ih =>
    rw [h] at ih
    match i with
    | 0 => exact absurd (Option.some.inj hc).symm hne
    | 1 =>
      have hspace : c = ' ' := head_maskLine true s (by rw [h]; exact hc)
      exact absurd hspace hne
    | i + 2 => exact ih hx hc
  | case5 d s hd masked after h ih =>
    rw [h] at ih
    match i with
    | 0 => exact .inl hx
    | i + 1 => exact ih hx hc

/-- Directly behind a character that is not masked stands what the masked line has there, or the start of a
comment. -/
theorem getElem?_behind_visible {inside : Bool} {s : Text} {i : Nat} {x c : Char}
    (hc : (maskLine inside s).1[i]? = some c) (hne : c ≠ ' ') (hx : (maskLine inside s).1[i + 1]? = some x) :
    s[i + 1]? = some x ∨ s[i + 1]? = some '/' := by
  fun_induction maskLine inside s generalizing i with
  | case1 => cases hx
  | case2 s masked after h ih =>
    rw [h] at ih
    match i with
    | 0 => exact absurd (Option.some.inj hc).symm hne
    | 1 => exact absurd (Option.some.inj hc).symm hne
    | i + 2 => exact ih hc hx
  | case3 d s hd masked after h ih =>
    rw [h] at ih
    match i with
    | 0 => exact absurd (Option.some.inj hc).symm hne
    | i + 1 => exact ih hc hx
  | case4 s masked after h ih =>
    rw [h] at ih
    match i with
    | 0 => exact absurd (Option.some.inj hc).symm hne
    | 1 => exact absurd (Option.some.inj hc).symm hne
    | i + 2 => exact ih hc hx
  | case5 d s hd masked after h ih =>
    rw [h] at ih
    match i with
    | 0 => exact head_maskLine false s (by rw [h]; exact hx)
    | i + 1 => exact ih hc hx

end WebBaseline.Stylesheet
