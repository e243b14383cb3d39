import Mathlib.Logic.Basic
import WebBaseline.Markup.Comment
import WebBaseline.Proofs.Text.Search

/-! Comments of a document.

A comment runs from an opening mark to the first closing mark behind it, or else to the end
(`readComment`). Masking is defined by a walk over the characters that remembers whether a comment is
open. Seen from mark to mark (`FirstComment`), it blanks the first comment and goes on behind it, and
`commentInduction` is the induction that follows. So masking blanks the characters of comments, and those
only (`getElem?_mask`). -/
namespace WebBaseline.Markup

/-- Recognises a comment, and says whether a mark closes it. -/
def readComment : Text.Recogniser Bool := fun s =>
  (Text.dropLead? "<!--" s).map fun behind =>
    match Text.cutAt? "-->" behind with
    | none => (behind.length + 4, false)
    | some (inner, _) => (inner.length + 7, true)

/-- The comments of a document, each with whether it is closed. -/
def comments (text : Text) : List (Text.Match Bool) :=
  Text.Matches.all readComment text

/-- Whether the character at the offset `i` belongs to a comment. -/
def InComment (text : Text) (i : Nat) : Prop :=
  ∃ c ∈ comments text, c.start ≤ i ∧ i < c.stop

instance (text : Text) (i : Nat) : Decidable (InComment text i) :=
  inferInstanceAs (Decidable (∃ c ∈ comments text, _))

/-! ### From mark to mark -/

/-- The first comment of `s` is `x`, with `before` before it and `rest` behind it. -/
inductive FirstComment : (s before x rest : Text) → (closed : Bool) → Prop where
  | closed {s before behind inner rest : Text}
    (hopen : Text.cutAt? "<!--" s = some (before, behind))
    (hclose : Text.cutAt? "-->" behind = some (inner, rest)) :
    FirstComment s before ("<!--" ++ (inner ++ "-->")) rest true
  | unclosed {s before behind : Text} (hopen : Text.cutAt? "<!--" s = some (before, behind))
    (hclose : Text.cutAt? "-->" behind = none) :
    FirstComment s before ("<!--" ++ behind) [] false

theorem maskFrom_outside {c : Char} {s : Text} (h : ¬ Text.startsWith (c :: s) "<!--" = true) :
    maskFrom false (c :: s) = c :: maskFrom false s := by
  apply maskFrom.eq_3
  rintro rest rfl rfl
  exact h rfl

theorem maskFrom_inside {c : Char} {s : Text} (h : ¬ Text.startsWith (c :: s) "-->" = true) :
    maskFrom true (c :: s) = blankChar c :: maskFrom true s := by
  apply maskFrom.eq_5
  rintro rest rfl rfl
  exact h rfl

theorem maskFrom_false (text : Text) :
    maskFrom false text = match Text.cutAt? "<!--" text with
      | none => text
      | some (before, behind) => before ++ (Text.blankOut "<!--" ++ maskFrom true behind) := by
  induction text with
  | nil => rfl
  | cons c s ih =>
    rw [Text.cutAt?_cons]
    by_cases h : Text.startsWith (c :: s) "<!--"
    · obtain ⟨rest, hrest⟩ := Text.startsWith_iff.mp h
      rw [if_pos h, hrest]
      rfl
    · rw [if_neg h, maskFrom_outside h, ih]
      cases Text.cutAt? "<!--" s <;> rfl

theorem maskFrom_true (text : Text) :
    maskFrom true text = match Text.cutAt? "-->" text with
      | none => Text.blankOut text
      | some (inner, rest) => Text.blankOut (inner ++ "-->") ++ maskFrom false rest := by
  induction text with
  | nil => rfl
  | cons c s ih =>
    rw [Text.cutAt?_cons]
    by_cases h : Text.startsWith (c :: s) "-->"
    · obtain ⟨rest, hrest⟩ := Text.startsWith_iff.mp h
      rw [if_pos h, hrest]
      rfl
    · rw [if_neg h, maskFrom_inside h, ih]
      cases Text.cutAt? "-->" s <;> rfl

theorem mask_plain {text : Text} (h : Text.cutAt? "<!--" text = none) : mask text = text := by
  rw [mask, maskFrom_false, h]

theorem readComment_of_not_mark {text : Text} (h : ¬ Text.startsWith text "<!--" = true) :
    readComment text = none := by
  rw [readComment, Option.map_eq_none_iff]
  simpa [Text.startsWith] using h

theorem commentsFrom_plain {text : Text} (h : Text.cutAt? "<!--" text = none) (offset : Nat) :
    Text.Matches.allFrom readComment offset 0 text = [] := by
  induction text generalizing offset with
  | nil => rfl
  | cons c s ih =>
    rw [Text.cutAt?_cons] at h
    split at h
    · cases h
    · rename_i hmark
      rw [Text.Matches.allFrom_of_none (readComment_of_not_mark hmark)]
      exact ih (Option.map_eq_none_iff.mp h) _

theorem commentsFrom_mark {text before behind : Text}
    (h : Text.cutAt? "<!--" text = some (before, behind)) (offset : Nat) :
    Text.Matches.allFrom readComment offset 0 text =
      Text.Matches.allFrom readComment (offset + before.length) 0 ("<!--" ++ behind) := by
  induction text generalizing before offset with
  | nil => cases h
  | cons c s ih =>
    have hs := Text.append_of_cutAt? h
    rw [Text.cutAt?_cons] at h
    split at h
    · cases h
      rw [hs]
      rfl
    · rename_i hmark
      obtain ⟨⟨a, b⟩, hcut, heq⟩ := Option.map_eq_some_iff.mp h
      cases heq
      rw [Text.Matches.allFrom_of_none (readComment_of_not_mark hmark), ih hcut, List.length_cons,
        Nat.add_assoc, Nat.add_comm 1]

namespace FirstComment

variable {s before x rest : Text} {closed : Bool}

theorem exists_mark (h : FirstComment s before x rest closed) :
    ∃ behind, Text.cutAt? "<!--" s = some (before, behind) ∧ "<!--" ++ behind = x ++ rest := by
  cases h with
  | closed hopen hclose =>
    refine ⟨_, hopen, ?_⟩
    rw [Text.append_of_cutAt? hclose]
    simp
  | unclosed hopen hclose => exact ⟨_, hopen, (List.append_nil _).symm⟩

theorem text_eq (h : FirstComment s before x rest closed) : s = before ++ (x ++ rest) := by
  obtain ⟨behind, hopen, hbehind⟩ := h.exists_mark
  rw [Text.append_of_cutAt? hopen, hbehind]

theorem ne_nil (h : FirstComment s before x rest closed) : x ≠ [] := by
  cases h with
  | closed | unclosed => exact List.append_ne_nil_of_left_ne_nil (by decide) _

theorem mask_eq (h : FirstComment s before x rest closed) :
    mask s = before ++ (Text.blankOut x ++ mask rest) := by
  cases h with
  | closed hopen hclose =>
    rw [mask, maskFrom_false, hopen]
    simp only [maskFrom_true, hclose]
    rfl
  | unclosed hopen hclose =>
    rw [mask, maskFrom_false, hopen]
    simp only [maskFrom_true, hclose]
    exact congrArg (before ++ ·) (List.append_nil _).symm

theorem readComment_eq (h : FirstComment s before x rest closed) :
    readComment (x ++ rest) = some (x.length, closed) := by
  obtain ⟨behind, hopen, hbehind⟩ := h.exists_mark
  rw [← hbehind, readComment, Text.dropLead?_eq_some_iff.mpr rfl, Option.map_some]
  cases h with
  | closed hopen' hclose =>
    cases hopen.symm.trans hopen'
    rw [hclose]
    simp
  | unclosed hopen' hclose =>
    cases hopen.symm.trans hopen'
    rw [hclose]
    simp

theorem commentsFrom_eq (h : FirstComment s before x rest closed) (offset : Nat) :
    Text.Matches.allFrom readComment offset 0 s =
      ⟨offset + before.length, x.length, closed⟩ ::
        Text.Matches.allFrom readComment (offset + before.length + x.length) 0 rest := by
  obtain ⟨behind, hopen, hbehind⟩ := h.exists_mark
  have hle : x.length ≤ (x ++ rest).length := by
    rw [List.length_append]
    omega
  rw [commentsFrom_mark hopen, hbehind,
    Text.Matches.allFrom_read (List.length_pos_iff.mpr h.ne_nil) hle h.readComment_eq, List.drop_left]

/-- A comment that is closed does not see what follows. -/
theorem append (h : FirstComment s before x rest true) (t : Text) :
    FirstComment (s ++ t) before x (rest ++ t) true := by
  cases h with
  | closed hopen hclose =>
    exact .closed (Text.cutAt?_append (by decide) hopen t) (Text.cutAt?_append (by decide) hclose t)

end FirstComment

/-- A text has no opening mark, or it has a first comment. -/
@[elab_as_elim]
theorem commentInduction {motive : Text → Prop}
    (plain : ∀ s, Text.cutAt? "<!--" s = none → motive s)
    (comment : ∀ s before x rest closed, FirstComment s before x rest closed → motive rest → motive s)
    (s : Text) : motive s := by
  induction hn : s.length using Nat.strongRecOn generalizing s with
  | _ n ih =>
    have step : ∀ {before x rest closed}, FirstComment s before x rest closed → motive s := by
      intro before x rest closed h
      have hlen := congrArg List.length h.text_eq
      have hpos := List.length_pos_iff.mpr h.ne_nil
      simp only [List.length_append] at hlen
      exact comment s before x rest closed h (ih rest.length (by omega) rest rfl)
    cases hopen : Text.cutAt? "<!--" s with
    | none => exact plain s hopen
    | some cut =>
      cases hclose : Text.cutAt? "-->" cut.2 with
      | none => exact step (.unclosed hopen hclose)
      | some cut' => exact step (.closed hopen hclose)

/-! ### What masking changes -/

theorem length_maskFrom (inside : Bool) (s : Text) : (maskFrom inside s).length = s.length := by
  fun_induction maskFrom inside s <;> simp [*]

theorem length_mask (text : Text) : (mask text).length = text.length :=
  length_maskFrom false text

theorem getElem?_blankOut (s : Text) (i : Nat) : (Text.blankOut s)[i]? = s[i]?.map blankChar :=
  List.getElem?_map

/-- A text where a part is blanked and what follows is masked. -/
theorem getElem?_blanked (before x y y' : Text) (i : Nat) :
    (before ++ (Text.blankOut x ++ y'))[i]? =
      if i < before.length then (before ++ (x ++ y))[i]?
      else if i < before.length + x.length then (before ++ (x ++ y))[i]?.map blankChar
      else y'[i - (before.length + x.length)]? := by
  have hlen : (Text.blankOut x).length = x.length := List.length_map _
  split
  · rename_i hi
    rw [List.getElem?_append_left hi, List.getElem?_append_left hi]
  · rename_i hbefore
    rw [List.getElem?_append_right (by omega)]
    split
    · rename_i hi
      rw [List.getElem?_append_left (by omega), getElem?_blankOut,
        List.getElem?_append_right (by omega), List.getElem?_append_left (by omega)]
    · rw [List.getElem?_append_right (by omega), hlen, Nat.sub_sub]

/-- Masking blanks the characters of comments and leaves the others. -/
theorem getElem?_maskAt (text : Text) (offset i : Nat) :
    (mask text)[i]? =
      if ∃ c ∈ Text.Matches.allFrom readComment offset 0 text,
        c.start ≤ offset + i ∧ offset + i < c.stop
      then text[i]?.map blankChar else text[i]? := by
  induction text using commentInduction generalizing offset i with
  | plain s h => simp [mask_plain h, commentsFrom_plain h]
  | comment s before x rest closed h ih =>
    rw [h.mask_eq, getElem?_blanked before x rest, ← h.text_eq, h.commentsFrom_eq]
    by_cases hbefore : i < before.length
    · rw [if_pos hbefore, if_neg]
      rintro ⟨c, hc, hle, -⟩
      rcases List.mem_cons.mp hc with rfl | hc
      · simp only at hle
        omega
      · have := Text.Matches.le_start_of_mem_allFrom hc
        omega
    · rw [if_neg hbefore]
      by_cases hin : i < before.length + x.length
      · rw [if_pos hin, if_pos]
        refine ⟨_, List.mem_cons_self .., ?_, ?_⟩
        · simp only
          omega
        · simp only [Text.Match.stop]
          omega
      · have hrest : rest[i - (before.length + x.length)]? = s[i]? := by
          rw [h.text_eq, List.getElem?_append_right (by omega),
            List.getElem?_append_right (by omega), Nat.sub_sub]
        have hi : offset + before.length + x.length + (i - (before.length + x.length)) =
            offset + i := by omega
        rw [if_neg hin, ih (offset + before.length + x.length), hi, hrest]
        -- The first comment ends before the offset.
        apply if_congr _ rfl rfl
        simp only [List.mem_cons, exists_eq_or_imp, Text.Match.stop]
        exact (or_iff_right (by omega)).symm

theorem getElem?_mask (text : Text) (i : Nat) :
    (mask text)[i]? = if InComment text i then text[i]?.map blankChar else text[i]? := by
  have h := getElem?_maskAt text 0 i
  rw [Nat.zero_add] at h
  exact h

end WebBaseline.Markup
