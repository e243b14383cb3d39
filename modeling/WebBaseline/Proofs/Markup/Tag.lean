import Mathlib.Data.List.TakeWhile
import WebBaseline.Markup.Foreign
import WebBaseline.Proofs.Text.Pieces
import WebBaseline.Proofs.Text.Search

/-! What the readers of tags and attributes read.

A tag is an opening bracket, its name, its inner text and the next closing bracket
(`Tag.exists_of_recognise`). An attribute starts with its name, and its value stands behind that, inside
of what was read (`Attribute.reads_of_recognise`). -/
namespace WebBaseline.Markup

/-! ### Tags -/

/-- The inner text of a tag ends at a closing bracket and has none. -/
theorem exists_of_inner? {s inner : Text} (h : inner? s = some inner) :
    ∃ rest, s = inner ++ '>' :: rest ∧ '>' ∉ inner := by
  unfold inner? at h
  split at h
  · rename_i rest hrest
    cases h
    refine ⟨rest, ?_, fun hm => absurd (List.mem_takeWhile_imp hm) (by decide)⟩
    rw [← hrest, List.takeWhile_append_dropWhile]
  · cases h

theorem isInner_of_inner? {s inner : Text} (h : inner? s = some inner) :
    ∀ c ∈ inner, isInner c = true := by
  unfold inner? at h
  split at h
  · cases h
    exact fun c hc => List.mem_takeWhile_imp hc
  · cases h

theorem Tag.exists_of_recognise {s : Text} {n : Nat} {t : Tag} (h : Tag.recognise s = some (n, t)) :
    ∃ rest, s = '<' :: t.name ++ t.inner ++ '>' :: rest ∧ n = t.name.length + t.inner.length + 2 ∧
      t.name ≠ [] ∧ '>' ∉ '<' :: t.name ++ t.inner := by
  unfold Tag.recognise at h
  split at h
  · rename_i s
    simp only at h
    split at h
    · rename_i hname
      obtain ⟨inner, hinner, heq⟩ := Option.map_eq_some_iff.mp h
      cases heq
      obtain ⟨rest, hrest, hfree⟩ := exists_of_inner? hinner
      have hchars : '>' ∉ s.takeWhile isTagChar := fun hm =>
        absurd (List.mem_takeWhile_imp hm) (by decide)
      simp only [Bool.and_eq_true, Bool.not_eq_true', List.isEmpty_eq_false_iff] at hname
      refine ⟨rest, ?_, rfl, hname.1.2, by simp [hchars, hfree]⟩
      simp only [List.cons_append, List.append_assoc]
      rw [← hrest, List.takeWhile_append_dropWhile]
    · cases h
  · cases h

theorem Tag.isTagChar_of_recognise {s : Text} {n : Nat} {t : Tag}
    (h : Tag.recognise s = some (n, t)) : ∀ c ∈ t.name, isTagChar c = true := by
  unfold Tag.recognise at h
  split at h
  · simp only at h
    split at h
    · obtain ⟨inner, -, heq⟩ := Option.map_eq_some_iff.mp h
      cases heq
      exact fun c hc => List.mem_takeWhile_imp hc
    · cases h
  · cases h

/-! ### What follows a tag -/

theorem endsName_append {s : Text} (hs : s ≠ []) (t : Text) : endsName (s ++ t) = endsName s := by
  cases s with
  | nil => exact absurd rfl hs
  | cons => rfl

/-- A text with a closing bracket decides by itself what the inner text at its front is. -/
theorem inner?_append {s : Text} (hs : '>' ∈ s) (t : Text) : inner? (s ++ t) = inner? s := by
  have hrest : '>' ∈ s.dropWhile isInner := Text.mem_dropWhile hs rfl
  obtain ⟨c, rest, hcons⟩ := List.exists_cons_of_ne_nil (List.ne_nil_of_mem hrest)
  unfold inner?
  rw [Text.dropWhile_append_of_mem hs rfl, Text.takeWhile_append_of_mem hs rfl, hcons]
  by_cases hc : c = '>'
  · subst hc
    rfl
  · simp [hc]

theorem Tag.recognise_of_ne {c : Char} (hc : c ≠ '<') (s : Text) : Tag.recognise (c :: s) = none := by
  rw [Tag.recognise]
  exact fun _ he => hc (List.cons.inj he).1

/-- A text with a closing bracket decides by itself which tag stands at its front. -/
theorem Tag.recognise_append {s : Text} (hs : '>' ∈ s) (t : Text) :
    Tag.recognise (s ++ t) = Tag.recognise s := by
  cases s with
  | nil => cases hs
  | cons c s =>
    by_cases hc : c = '<'
    · subst hc
      have hs : '>' ∈ s := (List.mem_cons.mp hs).resolve_left (by decide)
      have hrest : '>' ∈ s.dropWhile isTagChar := Text.mem_dropWhile hs rfl
      simp only [List.cons_append, Tag.recognise, Text.takeWhile_append_of_mem hs (p := isTagChar) rfl,
        Text.dropWhile_append_of_mem hs (p := isTagChar) rfl, endsName_append (List.ne_nil_of_mem hrest),
        inner?_append hrest]
    · rw [List.cons_append, Tag.recognise_of_ne hc, Tag.recognise_of_ne hc]

/-! ### Attributes -/

/-- What an attribute that takes `n` characters owes the text it was read from. -/
structure Attribute.Reads (s : Text) (n : Nat) (a : Attribute) : Prop where
  named : a.name ≠ []
  name : a.name <+: s
  name_le : a.name.length ≤ n
  inside : n ≤ s.length
  value : ∀ o raw, a.value = some (o, raw) → raw <+: s.drop o ∧ o + raw.length ≤ n

/-- A value between quotes ends before the closing quote. -/
theorem of_quoted? {q : Char} {s v : Text} (h : quoted? q s = some v) :
    v <+: s ∧ v.length < s.length := by
  unfold quoted? at h
  split at h
  · cases h
  · rename_i hrest
    cases h
    have hlen := congrArg List.length (List.takeWhile_append_dropWhile (p := (· != q)) (l := s))
    have hpos := List.length_pos_iff.mpr hrest
    rw [List.length_append] at hlen
    exact ⟨List.takeWhile_prefix _, by omega⟩

/-- The value of an attribute between quotes, where its opening quote stands in the text. -/
theorem of_quotedValue {q : Char} {s more v : Text} {start length : Nat} (hsuffix : q :: more <:+ s)
    (h : ((quoted? q more).map fun v =>
      (s.length - (q :: more).length + 1, v, s.length - (q :: more).length + v.length + 2)) =
        some (start, v, length)) :
    v <+: s.drop start ∧ start + v.length ≤ length ∧ length ≤ s.length := by
  obtain ⟨w, hw, heq⟩ := Option.map_eq_some_iff.mp h
  cases heq
  obtain ⟨hhere, hlt⟩ := of_quoted? hw
  have hle := hsuffix.length_le
  have hdrop := List.suffix_iff_eq_drop.mp hsuffix
  rw [List.length_cons] at hle
  refine ⟨?_, by omega, by rw [List.length_cons]; omega⟩
  rw [← List.drop_drop, ← hdrop]
  exact hhere

/-- The value of an attribute stands where it says, and ends within what was read. -/
theorem of_attributeValue? {s v : Text} {start length : Nat}
    (h : attributeValue? s = some (start, v, length)) :
    v <+: s.drop start ∧ start + v.length ≤ length ∧ length ≤ s.length := by
  unfold attributeValue? at h
  split at h
  · rename_i rest hrest
    have hsuffix : rest.dropWhile Text.isBlank <:+ s :=
      ((List.dropWhile_suffix _).trans (List.suffix_cons '=' rest)).trans
        (hrest ▸ List.dropWhile_suffix _)
    simp only at h
    split at h
    · rename_i more hbody
      rw [hbody] at h hsuffix
      exact of_quotedValue hsuffix h
    · rename_i more hbody
      rw [hbody] at h hsuffix
      exact of_quotedValue hsuffix h
    · split at h
      · cases h
      · cases h
        have hle := hsuffix.length_le
        have hbare := List.takeWhile_prefix (l := rest.dropWhile Text.isBlank) isBareChar
        have hlen := hbare.length_le
        exact ⟨List.suffix_iff_eq_drop.mp hsuffix ▸ hbare, Nat.le_refl _, by omega⟩
  · cases h

theorem Attribute.isAttributeChar_of_recognise {s : Text} {n : Nat} {a : Attribute}
    (h : Attribute.recognise s = some (n, a)) : ∀ c ∈ a.name, isAttributeChar c = true := by
  simp only [Attribute.recognise] at h
  split at h
  · cases h
  · split at h <;> cases h <;> exact fun c hc => List.mem_takeWhile_imp hc

theorem Attribute.reads_of_recognise {s : Text} {n : Nat} {a : Attribute}
    (h : Attribute.recognise s = some (n, a)) : a.Reads s n := by
  have hname := List.takeWhile_prefix (l := s) isAttributeChar
  have hsplit := List.takeWhile_append_dropWhile (p := isAttributeChar) (l := s)
  have hlen := congrArg List.length hsplit
  rw [List.length_append] at hlen
  have hrest : s.drop (s.takeWhile isAttributeChar).length = s.dropWhile isAttributeChar := by
    calc s.drop (s.takeWhile isAttributeChar).length
        = (s.takeWhile isAttributeChar ++ s.dropWhile isAttributeChar).drop
            (s.takeWhile isAttributeChar).length := by rw [hsplit]
      _ = s.dropWhile isAttributeChar := List.drop_left
  simp only [Attribute.recognise] at h
  split at h
  · cases h
  · rename_i hne
    have hne : s.takeWhile isAttributeChar ≠ [] := by simpa using hne
    split at h
    · cases h
      exact ⟨hne, hname, Nat.le_refl _, by omega, fun o raw hv => by cases hv⟩
    · rename_i start value length hvalue
      cases h
      obtain ⟨hhere, hstop, hle⟩ := of_attributeValue? hvalue
      refine ⟨hne, hname, Nat.le_add_right .., by omega, ?_⟩
      intro o raw hv
      cases hv
      rw [← List.drop_drop, hrest]
      exact ⟨hhere, by omega⟩

end WebBaseline.Markup
