import Mathlib.Data.List.Infix
import WebBaseline.Markup.Scan
import WebBaseline.Proofs.Markup.Comment
import WebBaseline.Proofs.Text.Position

/-! Comments do not influence findings.

Where no opening mark reaches from one text into the next (`Apart`), and the comments of the first are
closed, the two are masked one after the other (`mask_append`). So a comment may as well be blanks, and
what is masked stays as it is. Masking leaves line breaks where they are, and with them all positions
(`position_mask`): a scan reads nothing but the masked document (`scan_congr`). -/
namespace WebBaseline.Markup

/-! ### Masking part by part -/

/-- No opening mark reaches from the end of `a` into `b`. -/
def Apart (a b : Text) : Prop :=
  ∀ u v, u ++ v = ("<!--" : Text) → u ≠ [] → v ≠ [] → u <:+ a → ¬ v <+: b

theorem apart_of_not_mem {a : Text} (h : '<' ∉ a) (b : Text) : Apart a b := by
  intro u v huv hu _ hsuffix _
  cases u with
  | nil => exact hu rfl
  | cons c u =>
    have hc : c = '<' := (List.cons.inj huv).1
    exact h (hsuffix.subset (by simp [hc]))

/-- Only an exclamation mark or a hyphen can continue an opening mark. -/
theorem apart_of_head {b : Text} (h : ∀ c ∈ b.head?, c ≠ '!' ∧ c ≠ '-') (a : Text) : Apart a b := by
  intro u v huv hu hv _ hprefix
  cases u with
  | nil => exact hu rfl
  | cons c u =>
    cases v with
    | nil => exact hv rfl
    | cons d v =>
      have hmark : u ++ d :: v = (['!', '-', '-'] : Text) := (List.cons.inj huv).2
      have hd : d ∈ (['!', '-', '-'] : Text) := by
        rw [← hmark]
        simp
      obtain ⟨t, ht⟩ := hprefix
      have hhead := h d (by rw [← ht]; rfl)
      simp [hhead] at hd

theorem Apart.of_suffix {a a' b : Text} (h : Apart a b) (hsuffix : a' <:+ a) : Apart a' b :=
  fun u v huv hu hv hend => h u v huv hu hv (hend.trans hsuffix)

/-- A text without opening marks stays as it is, whatever follows. -/
theorem mask_plain_append {a b : Text} (ha : Text.cutAt? "<!--" a = none) (h : Apart a b) :
    mask (a ++ b) = a ++ mask b := by
  unfold mask
  induction a with
  | nil => rfl
  | cons c a ih =>
    rw [Text.cutAt?_cons] at ha
    split at ha
    · cases ha
    · rename_i hmark
      have hmark' : ¬ Text.startsWith (c :: (a ++ b)) "<!--" = true := by
        intro hstart
        rw [Text.startsWith_eq_true_iff] at hstart hmark
        rcases List.prefix_or_prefix_of_prefix hstart (List.prefix_append (c :: a) b) with hin | hover
        · exact hmark hin
        · obtain ⟨v, hv⟩ := hover
          rw [← hv] at hstart
          refine h (c :: a) v hv (List.cons_ne_nil c a) ?_ (List.suffix_refl _)
            ((List.prefix_append_right_inj (c :: a)).mp hstart)
          rintro rfl
          exact hmark ⟨[], by simpa using hv.symm⟩
      rw [List.cons_append, maskFrom_outside hmark',
        ih (Option.map_eq_none_iff.mp ha) (h.of_suffix (List.suffix_cons c a))]
      rfl

/-- Behind a text whose comments are closed, masking starts anew. -/
theorem mask_append {a b : Text} {offset : Nat}
    (hclosed : ∀ c ∈ Text.Matches.allFrom readComment offset 0 a, c.value = true) (h : Apart a b) :
    mask (a ++ b) = mask a ++ mask b := by
  induction a using commentInduction generalizing offset with
  | plain s hs => rw [mask_plain_append hs h, mask_plain hs]
  | comment s before x rest closed hfirst ih =>
    rw [hfirst.commentsFrom_eq, List.forall_mem_cons] at hclosed
    obtain rfl : closed = true := hclosed.1
    have hrest : rest <:+ s := ⟨before ++ x, by rw [hfirst.text_eq, List.append_assoc]⟩
    rw [(hfirst.append b).mask_eq, hfirst.mask_eq, ih hclosed.2 (h.of_suffix hrest)]
    simp

theorem blank_ne {c d : Char} (hr : d ≠ '\r') (hn : d ≠ '\n') (hs : d ≠ ' ') : blankChar c ≠ d := by
  unfold blankChar
  split
  · rename_i h
    rintro rfl
    simp [hr, hn] at h
  · exact hs.symm

/-- Blanks stay as they are, whatever follows. -/
theorem mask_blankOut_append (x b : Text) : mask (Text.blankOut x ++ b) = Text.blankOut x ++ mask b := by
  have hfree : '<' ∉ Text.blankOut x := by
    intro hm
    obtain ⟨c, -, hc⟩ := List.mem_map.mp hm
    exact blank_ne (by decide) (by decide) (by decide) hc
  have hplain : Text.cutAt? "<!--" (Text.blankOut x) = none :=
    (Text.cutAt?_eq_none_iff (by decide)).mpr fun hmark => hfree (hmark.subset (by decide))
  exact mask_plain_append hplain (apart_of_not_mem hfree b)

theorem mask_mask (text : Text) : mask (mask text) = mask text := by
  induction text using commentInduction with
  | plain s h => rw [mask_plain h, mask_plain h]
  | comment s before x rest closed h ih =>
    obtain ⟨behind, hopen, -⟩ := h.exists_mark
    have hhead : ∀ c ∈ (Text.blankOut x ++ mask rest).head?, c ≠ '!' ∧ c ≠ '-' := by
      obtain ⟨d, y, rfl⟩ := List.exists_cons_of_ne_nil h.ne_nil
      intro c hc
      cases hc
      exact ⟨blank_ne (by decide) (by decide) (by decide),
        blank_ne (by decide) (by decide) (by decide)⟩
    have hplain := Text.cutAt?_before (by decide) hopen
    rw [h.mask_eq, mask_plain_append hplain (apart_of_head hhead before), mask_blankOut_append, ih]

/-! ### What a scan reads -/

theorem blankChar_eq_iff {c d : Char} (hd : d = '\r' ∨ d = '\n') : blankChar c = d ↔ c = d := by
  unfold blankChar
  split
  · rfl
  · rename_i h
    simp only [Bool.or_eq_true, decide_eq_true_eq, not_or] at h
    constructor
    · rintro rfl
      exact absurd hd (by decide)
    · rintro rfl
      exact absurd hd (not_or.mpr h)

/-- Line breaks stay where they are. -/
theorem getElem?_mask_break {d : Char} (hd : d = '\r' ∨ d = '\n') (text : Text) (i : Nat) :
    (mask text)[i]? = some d ↔ text[i]? = some d := by
  rw [getElem?_mask]
  split
  · cases text[i]? with
    | none => simp
    | some c => simp [blankChar_eq_iff hd]
  · rfl

theorem position_mask (text : Text) : (mask text).position = text.position := by
  apply Text.position_congr
  apply List.ext_getElem?
  intro i
  rw [List.getElem?_map, List.getElem?_map, getElem?_mask]
  split
  · rw [Option.map_map]
    congr 1
    funext c
    rw [Bool.eq_iff_iff]
    simp [blankChar_eq_iff]
  · rfl

theorem tagFindings_congr {s t : Text} (h : s.position = t.position) (index : Index) :
    tagFindings index s = tagFindings index t := by
  have hrange : Range.ofOffsets s = Range.ofOffsets t := by
    funext start stop
    simp only [Range.ofOffsets, h]
  have hattribute : attributeFinding index s = attributeFinding index t := by
    funext tag base m
    simp only [attributeFinding, hrange]
  funext m
  simp only [tagFindings, hattribute, hrange]

/-- A scan reads nothing but the masked document. -/
theorem scan_congr {s t : Text} (h : mask s = mask t) (index : Index) :
    scan s index = scan t index := by
  have hposition : s.position = t.position := by rw [← position_mask s, h, position_mask]
  unfold scan
  simp only [h, tagFindings_congr hposition]

/-- A closing mark does not overlap with the text before it. -/
theorem cutAt?_close {c : Text} (h : ¬ ("-->" : Text) <:+: c) (b : Text) :
    Text.cutAt? "-->" (c ++ ("-->" ++ b)) = some (c, b) := by
  induction c with
  | nil => rfl
  | cons d c ih =>
    rw [List.infix_cons_iff, not_or] at h
    have hmark : ¬ Text.startsWith (d :: (c ++ ("-->" ++ b))) "-->" = true := by
      rw [Text.startsWith_eq_true_iff]
      match c with
      | [] => simp
      | [e] => simp
      | e :: f :: c => simpa using h.1
    rw [List.cons_append, Text.cutAt?_cons, if_neg hmark, ih h.2]
    rfl

/-- A comment behind closed ones is masked like blanks. -/
theorem mask_comment {a x b : Text} {closed : Bool} (ha : ∀ m ∈ comments a, m.value = true)
    (hx : FirstComment (x ++ b) [] x b closed) :
    mask (a ++ (x ++ b)) = mask (a ++ (Text.blankOut x ++ b)) := by
  obtain ⟨y, rfl⟩ : ∃ y, x = '<' :: y := by
    cases hx with
    | closed | unclosed => exact ⟨_, rfl⟩
  have hcomment : Apart a ('<' :: y ++ b) := apart_of_head (by simp) a
  have hblanks : Apart a (Text.blankOut ('<' :: y) ++ b) :=
    apart_of_head (by simp [Text.blankOut]) a
  rw [mask_append ha hcomment, mask_append ha hblanks, hx.mask_eq, mask_blankOut_append]
  rfl

/-- **Comments do not influence the findings.** -/
theorem scan_comment :
    (∀ a c b : Text, (∀ m ∈ comments a, m.value = true) → ¬ ("-->" : Text) <:+: c → ∀ index,
      scan (a ++ (("<!--" ++ (c ++ "-->")) ++ b)) index =
        scan (a ++ (Text.blankOut ("<!--" ++ (c ++ "-->")) ++ b)) index ∧
      scan (a ++ ("<!--" ++ c)) index = scan (a ++ Text.blankOut ("<!--" ++ c)) index) ∧
    ∀ text, mask (mask text) = mask text ∧ (mask text).length = text.length ∧
      (∀ i : Nat, ((mask text)[i]? = some '\r' ↔ text[i]? = some '\r') ∧
        ((mask text)[i]? = some '\n' ↔ text[i]? = some '\n')) ∧
      (∀ i : Nat, ¬ InComment text i → (mask text)[i]? = text[i]?) ∧
      (∀ i : Nat, InComment text i → (mask text)[i]? = text[i]?.map blankChar) ∧
      ∀ index, scan text index = scan (mask text) index := by
  constructor
  · intro a c b ha hc index
    have hclosed : FirstComment (("<!--" ++ (c ++ "-->")) ++ b) [] ("<!--" ++ (c ++ "-->")) b true := by
      have hclose : Text.cutAt? "-->" ((c ++ "-->") ++ b) = some (c, b) := by
        rw [List.append_assoc]
        exact cutAt?_close hc b
      exact .closed rfl hclose
    have hunclosed : FirstComment ((("<!--" : Text) ++ c) ++ []) [] ("<!--" ++ c) [] false := by
      rw [List.append_nil]
      exact .unclosed rfl ((Text.cutAt?_eq_none_iff (by decide)).mpr hc)
    constructor
    · exact scan_congr (mask_comment ha hclosed) index
    · have hmask := mask_comment ha hunclosed
      rw [List.append_nil, List.append_nil] at hmask
      exact scan_congr hmask index
  · intro text
    refine ⟨mask_mask text, length_mask text, fun i => ?_, fun i h => ?_, fun i h => ?_,
      fun index => ?_⟩
    · exact ⟨getElem?_mask_break (.inl rfl) text i, getElem?_mask_break (.inr rfl) text i⟩
    · rw [getElem?_mask, if_neg h]
    · rw [getElem?_mask, if_pos h]
    · exact scan_congr (mask_mask text).symm index

/-- A comment in a tag, with half a closing mark, a tag and a line break in it. -/
theorem scan_comment_popover :
    let a : Text := "<!--x--><p"
    let c : Text := "->\r\n<svg>--"
    let b : Text := " popover>"
    let index : Index := { markup := [("popover", { id := "popover", name := [], status := .newly })] }
    (∀ m ∈ comments a, m.value = true) ∧ ¬ ("-->" : Text) <:+: c ∧
      scan (a ++ (("<!--" ++ (c ++ "-->")) ++ b)) index =
        scan (a ++ (Text.blankOut ("<!--" ++ (c ++ "-->")) ++ b)) index ∧
      scan (a ++ ("<!--" ++ c)) index = scan (a ++ Text.blankOut ("<!--" ++ c)) index ∧
      scan (a ++ (("<!--" ++ (c ++ "-->")) ++ b)) index =
        [⟨Range.onLine 1 11 18, .newly, "popover", "popover"⟩] ∧
      (InComment a 7 ∧ (mask a)[7]? = a[7]?.map blankChar) ∧
      ¬ InComment a 8 ∧ (mask a)[8]? = a[8]? := by
  intro a c b index
  have ha : ∀ m ∈ comments a, m.value = true := by decide +kernel
  have hc : ¬ ("-->" : Text) <:+: c := by decide +kernel
  have hin : InComment a 7 := by decide +kernel
  have hout : ¬ InComment a 8 := by decide +kernel
  obtain ⟨hclosed, hunclosed⟩ := scan_comment.1 a c b ha hc index
  obtain ⟨-, -, -, hplain, hblank, -⟩ := scan_comment.2 a
  exact ⟨ha, hc, hclosed, hunclosed, by decide +kernel, ⟨hin, hblank 7 hin⟩, hout, hplain 8 hout⟩

end WebBaseline.Markup
