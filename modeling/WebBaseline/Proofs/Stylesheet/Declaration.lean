import Mathlib.Data.List.TakeWhile
import WebBaseline.Proofs.Text.Blank
import WebBaseline.Proofs.Text.Pieces
import WebBaseline.Stylesheet.Declaration

/-! How declarations are written.

What is read as a declaration is written in one way: blanks, a name, blanks, a colon, and something behind it
(`Declares`). `exists_of_parse?` finds the parts in what was read, and `Declares.parse?_eq` reads a text that
has them. -/
namespace WebBaseline.Stylesheet

/-- The parts of a declaration, as it is written. -/
structure Declares (s lead name gap rest : Text) : Prop where
  text_eq : s = lead ++ (name ++ (gap ++ ':' :: rest))
  lead_blank : ∀ c ∈ lead, Text.isBlank c = true
  name_ne_nil : name ≠ []
  name_chars : ∀ c ∈ name, Text.isNameChar c = true
  gap_blank : ∀ c ∈ gap, Text.isBlank c = true
  rest_filled : ∃ c ∈ rest, Text.isBlank c = false

theorem not_isBlank_of_isNameChar {c : Char} (h : Text.isNameChar c = true) : Text.isBlank c = false :=
  Text.not_isBlank_of (by decide +kernel) h

/-! ### What was read -/

/-- A declaration that was read stands in the text with all its parts. -/
theorem exists_of_parse? {s : Text} {d : Declaration} (h : Declaration.parse? s = some d) :
    ∃ lead gap rest, Declares s lead d.name gap rest ∧ lead.length = d.start ∧
      d.start + d.name.length + gap.length = d.colon := by
  simp only [Declaration.parse?] at h
  split at h
  · rename_i after hrest
    split at h
    · cases h
    · rename_i hcond
      cases h
      simp only [Bool.or_eq_true, List.isEmpty_iff, not_or] at hcond
      have hbody := List.takeWhile_append_dropWhile (p := Text.isBlank) (l := s)
      have hname := List.takeWhile_append_dropWhile (p := Text.isNameChar)
        (l := s.dropWhile Text.isBlank)
      have hgap := List.takeWhile_append_dropWhile (p := Text.isBlank)
        (l := (s.dropWhile Text.isBlank).dropWhile Text.isNameChar)
      refine ⟨s.takeWhile Text.isBlank,
        ((s.dropWhile Text.isBlank).dropWhile Text.isNameChar).takeWhile Text.isBlank, after, {
          text_eq := by rw [← hrest, hgap, hname, hbody]
          lead_blank := fun c hc => List.mem_takeWhile_imp hc
          name_ne_nil := hcond.1.1
          name_chars := fun c hc => List.mem_takeWhile_imp hc
          gap_blank := fun c hc => List.mem_takeWhile_imp hc
          rest_filled := ?_ }, ?_, ?_⟩
      · -- The value is not empty, and it starts with a character that is not blank.
        obtain ⟨c, value, hvalue⟩ := List.exists_cons_of_ne_nil hcond.1.2
        have hc : c ∈ Text.strip (after.takeWhile (· != ';')) := hvalue ▸ List.mem_cons_self ..
        have hblank := (Text.isTrimmed_strip (after.takeWhile (· != ';'))).head c (by rw [hvalue]; rfl)
        exact ⟨c, (List.takeWhile_prefix _).subset (Text.mem_of_mem_strip hc), hblank⟩
      · have := congrArg List.length hbody
        simp only [List.length_append] at this ⊢
        omega
      · have hb := congrArg List.length hbody
        have hn := congrArg List.length hname
        have hg := congrArg List.length hgap
        simp only [List.length_append] at hb hn hg ⊢
        omega
  · cases h

theorem isNameChar_of_parse? {s : Text} {d : Declaration} (h : Declaration.parse? s = some d) :
    ∀ c ∈ d.name, Text.isNameChar c = true := by
  obtain ⟨lead, gap, rest, hd, -, -⟩ := exists_of_parse? h
  exact hd.name_chars

/-! ### What is read -/

/-- What may stand behind a declaration on its line. -/
inductive IsClosing : Text → Prop where
  | nil : IsClosing []
  | semicolon {blanks : Text} (h : ∀ c ∈ blanks, Text.isBlank c = true) : IsClosing (';' :: blanks)

namespace IsClosing

variable {closing : Text}

theorem takeWhile_eq (h : IsClosing closing) : closing.takeWhile (· != ';') = [] := by
  cases h <;> rfl

theorem dropWhile_eq (h : IsClosing closing) : closing.dropWhile (· != ';') = closing := by
  cases h <;> rfl

theorem all_isBlank (h : IsClosing closing) : (closing.drop 1).all Text.isBlank = true := by
  cases h with
  | nil => rfl
  | semicolon h => exact List.all_eq_true.mpr h

end IsClosing

namespace Declares

variable {s lead name gap rest : Text}

/-- Behind the name stand blanks and the colon. -/
theorem exists_behind_name (h : Declares s lead name gap rest) :
    ∃ c behind, gap ++ ':' :: rest = c :: behind ∧ Text.isNameChar c = false := by
  cases gap with
  | nil => exact ⟨':', rest, rfl, by decide +kernel⟩
  | cons c gap =>
    refine ⟨c, gap ++ ':' :: rest, rfl, Bool.eq_false_iff.mpr fun hc => ?_⟩
    have hblank := h.gap_blank c (List.mem_cons_self ..)
    rw [not_isBlank_of_isNameChar hc] at hblank
    cases hblank

theorem strip_ne_nil (h : Declares s lead name gap rest) : Text.strip rest ≠ [] :=
  Text.strip_ne_nil_iff.mpr h.rest_filled

/-- What stands behind a declaration belongs to what stands behind its colon. -/
theorem append (h : Declares s lead name gap rest) (t : Text) :
    Declares (s ++ t) lead name gap (rest ++ t) where
  text_eq := by
    rw [h.text_eq]
    simp
  lead_blank := h.lead_blank
  name_ne_nil := h.name_ne_nil
  name_chars := h.name_chars
  gap_blank := h.gap_blank
  rest_filled := by
    obtain ⟨c, hc, hblank⟩ := h.rest_filled
    exact ⟨c, List.mem_append_left t hc, hblank⟩

/-- A text without a semicolon that is written as a declaration is read as one, also with what may stand
behind a declaration. -/
theorem parse?_append (h : Declares s lead name gap rest) (hs : ';' ∉ s) {closing : Text}
    (hclosing : IsClosing closing) :
    Declaration.parse? (s ++ closing) =
      some ⟨lead.length, name, lead.length + name.length + gap.length, Text.strip rest⟩ := by
  have hwhole := h.append closing
  obtain ⟨c, behind, hbehind, hc⟩ := hwhole.exists_behind_name
  obtain ⟨d, tail, hname⟩ := List.exists_cons_of_ne_nil h.name_ne_nil
  have hd : Text.isBlank d = false :=
    not_isBlank_of_isNameChar (h.name_chars d (hname ▸ List.mem_cons_self ..))
  have hbody : (s ++ closing).dropWhile Text.isBlank = name ++ (gap ++ ':' :: (rest ++ closing)) := by
    rw [hwhole.text_eq, hname, List.cons_append]
    exact Text.dropWhile_run h.lead_blank hd _
  have htake : (name ++ (gap ++ ':' :: (rest ++ closing))).takeWhile Text.isNameChar = name := by
    rw [hbehind]
    exact Text.takeWhile_run h.name_chars hc behind
  have hdrop : (name ++ (gap ++ ':' :: (rest ++ closing))).dropWhile Text.isNameChar =
      gap ++ ':' :: (rest ++ closing) := by
    rw [hbehind]
    exact Text.dropWhile_run h.name_chars hc behind
  have hcolon : (gap ++ ':' :: (rest ++ closing)).dropWhile Text.isBlank = ':' :: (rest ++ closing) :=
    Text.dropWhile_run h.gap_blank (by decide) _
  have hsemi : ∀ x ∈ rest, (x != ';') = true := by
    intro x hx
    rw [h.text_eq] at hs
    simp only [List.mem_append, List.mem_cons, not_or] at hs
    exact bne_iff_ne.mpr fun he => hs.2.2.2.2 (he ▸ hx)
  have hvalue : (rest ++ closing).takeWhile (· != ';') = rest := by
    rw [List.takeWhile_append_of_pos hsemi, hclosing.takeWhile_eq, List.append_nil]
  have hend : (rest ++ closing).dropWhile (· != ';') = closing := by
    rw [List.dropWhile_append_of_pos hsemi, hclosing.dropWhile_eq]
  have hlength := congrArg List.length hwhole.text_eq
  simp only [List.length_append, List.length_cons] at hlength
  simp only [Declaration.parse?, hbody, htake, hdrop, hcolon, hvalue, hend, hclosing.all_isBlank]
  simp only [Bool.not_true, Bool.or_false, List.isEmpty_eq_false_iff.mpr h.name_ne_nil,
    List.isEmpty_eq_false_iff.mpr h.strip_ne_nil, Bool.false_eq_true, if_false, List.length_append,
    List.length_cons, Option.some.injEq, Declaration.mk.injEq, true_and, and_true]
  omega

/-- A text without a semicolon that is written as a declaration is read as one. -/
theorem parse?_eq (h : Declares s lead name gap rest) (hs : ';' ∉ s) :
    Declaration.parse? s =
      some ⟨lead.length, name, lead.length + name.length + gap.length, Text.strip rest⟩ := by
  have hread := h.parse?_append hs .nil
  rwa [List.append_nil] at hread

end Declares

/-- A declaration is read as the same one with what may stand behind it. -/
theorem parse?_closing {s closing : Text} {d : Declaration} (h : Declaration.parse? s = some d) (hs : ';' ∉ s)
    (hclosing : IsClosing closing) : Declaration.parse? (s ++ closing) = some d := by
  obtain ⟨lead, gap, rest, hdeclares, -, -⟩ := exists_of_parse? h
  rw [hdeclares.parse?_append hs hclosing, ← hdeclares.parse?_eq hs, h]

end WebBaseline.Stylesheet
