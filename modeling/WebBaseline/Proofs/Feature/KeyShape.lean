import WebBaseline.Proofs.Feature.MarkupKey
import WebBaseline.Proofs.Lookup.Word

/-! What a markup key says of its path.

A key is names with marks between them (`Reads`). If the parts of a path have no marks of their own, the
marks of its key and the names between them can be told from the key (`Reads.unique`), and they give the
path (`readBack`, `exists_reads`). Only a key that is a bare name does not say whether it is that of a
property, of an element or of a global attribute. So two paths that share a key are the same, or they are
of these three kinds and have the same name (`markupKeys_unambiguous`). -/
namespace WebBaseline.Feature

open Lookup (isMark isMark_iff)

/-- The parts of a path in lower case. -/
def lowerParts (path : Text) : List Text :=
  (parts path).map Text.lower

/-- The path, given by its lower-case parts, is that of a property, an element or a global attribute of this
name. -/
def IsBare (ps : List Text) (name : Text) : Prop :=
  ps = [("css" : Text), "properties", name] ∨ ps = [("html" : Text), "elements", name] ∨
    ps = [("html" : Text), "global_attributes", name]

/-! ### Marks and names -/

/-- A key with its marks and the names before, between and behind them, some of which may be empty. -/
inductive Reads : (marks : Text) → (names : List Text) → (key : Text) → Prop where
  | last {s : Text} (h : ∀ c ∈ s, isMark c = false) : Reads [] [s] s
  | mark {a : Text} {c : Char} {marks : Text} {names : List Text} {s : Text}
    (h : ∀ c ∈ a, isMark c = false) (hc : isMark c = true) (rest : Reads marks names s) :
    Reads (c :: marks) (a :: names) (a ++ c :: s)

namespace Reads

variable {marks marks' : Text} {names names' : List Text} {k : Text}

theorem eq (h : Reads marks names k) : k.filter isMark = marks ∧ Text.splitBy isMark k = names := by
  have hnone : ∀ {s : Text}, (∀ c ∈ s, isMark c = false) → s.filter isMark = [] := fun hs =>
    List.filter_eq_nil_iff.mpr fun c hc => by simp [hs c hc]
  induction h with
  | last h => exact ⟨hnone h, Text.splitBy_free h⟩
  | mark h hc _ ih =>
    rw [List.filter_append, hnone h, List.filter_cons_of_pos hc, ih.1, Text.splitBy_piece h hc, ih.2]
    exact ⟨rfl, rfl⟩

/-- A key is read in one way only. -/
theorem unique (h : Reads marks names k) (h' : Reads marks' names' k) : marks = marks' ∧ names = names' :=
  ⟨h.eq.1.symm.trans h'.eq.1, h.eq.2.symm.trans h'.eq.2⟩

end Reads

/-- The path of a key with these marks and names, given by its lower-case parts. -/
def readBack : (marks : Text) → (names : List Text) → List Text
  | [':'], [[], x] => ["css", "selectors", x]
  | [':', ':'], [[], [], x] => ["css", "selectors", x]
  | [':', ':'], [p, [], v] => ["css", "properties", p, v]
  | ['@'], [[], x] => ["css", "at-rules", x]
  | ['@'], [t, a] => ["html", "elements", t, a]
  | ['@', ':', ':'], [t, a, [], v] => ["html", "elements", t, a, v]
  | _, _ => []

/-- A key says which path it comes from, unless it is a bare name. -/
theorem exists_reads {ps : List Text} {k : Text} {sample : Sample} (h : Canonical ps k sample)
    (hne : ∀ part ∈ ps, part ≠ []) (hfree : ∀ part ∈ ps, ∀ c ∈ part, isMark c = false) :
    ∃ marks names, Reads marks names k ∧
      (marks = [] ∧ IsBare ps k ∨ marks ≠ [] ∧ readBack marks names = ps) := by
  have hcolon : isMark ':' = true := rfl
  have hat : isMark '@' = true := rfl
  have hempty : ∀ c ∈ ([] : Text), isMark c = false := nofun
  cases h with
  | property => exact ⟨[], [k], .last (hfree k (by simp)), .inl ⟨rfl, .inl rfl⟩⟩
  | element => exact ⟨[], [k], .last (hfree k (by simp)), .inl ⟨rfl, .inr (.inl rfl)⟩⟩
  | globalAttribute => exact ⟨[], [k], .last (hfree k (by simp)), .inl ⟨rfl, .inr (.inr rfl)⟩⟩
  | propertyValue p v =>
    have hv := Reads.last (hfree v (by simp))
    have hk := ((hv.mark hempty hcolon).mark (hfree p (by simp)) hcolon)
    obtain ⟨c, p, rfl⟩ := List.exists_cons_of_ne_nil (hne p (by simp))
    exact ⟨_, _, by simpa using hk, .inr ⟨List.cons_ne_nil _ _, rfl⟩⟩
  | pseudoClass x =>
    have hk := (Reads.last (hfree x (by simp))).mark hempty hcolon
    exact ⟨_, _, hk, .inr ⟨List.cons_ne_nil _ _, rfl⟩⟩
  | pseudoElement x =>
    have hk := ((Reads.last (hfree x (by simp))).mark hempty hcolon).mark hempty hcolon
    exact ⟨_, _, hk, .inr ⟨List.cons_ne_nil _ _, rfl⟩⟩
  | atRule x =>
    have hk := (Reads.last (hfree x (by simp))).mark hempty hat
    exact ⟨_, _, hk, .inr ⟨List.cons_ne_nil _ _, rfl⟩⟩
  | attributeName t a =>
    have hk := (Reads.last (hfree a (by simp))).mark (hfree t (by simp)) hat
    obtain ⟨c, t, rfl⟩ := List.exists_cons_of_ne_nil (hne t (by simp))
    exact ⟨_, _, by simpa using hk, .inr ⟨List.cons_ne_nil _ _, rfl⟩⟩
  | attributeValue t a v =>
    have hv := ((Reads.last (hfree v (by simp))).mark hempty hcolon).mark (hfree a (by simp)) hcolon
    have hk := hv.mark (hfree t (by simp)) hat
    exact ⟨_, _, by simpa using hk, .inr ⟨List.cons_ne_nil _ _, rfl⟩⟩

theorem exists_reads_of_mem_markupKeys {path k : Text} (h : k ∈ markupKeys path)
    (hfree : ∀ part ∈ lowerParts path, ':' ∉ part ∧ '@' ∉ part) :
    ∃ marks names, Reads marks names k ∧
      (marks = [] ∧ IsBare (lowerParts path) k ∨ marks ≠ [] ∧ readBack marks names = lowerParts path) := by
  obtain ⟨sample, hsample⟩ := exists_canonical _ k h
  refine exists_reads hsample (fun part hpart => ?_) fun part hpart c hc => ?_
  · obtain ⟨raw, hraw, rfl⟩ := List.mem_map.mp hpart
    exact fun hnil => (of_mem_parts hraw).1 ((Text.lower_eq_nil_iff raw).mp hnil)
  · obtain ⟨hcolon, hat⟩ := hfree part hpart
    rw [Bool.eq_false_iff, ne_eq, isMark_iff]
    rintro (rfl | rfl)
    · exact hat hc
    · exact hcolon hc

/-- **Markup keys are unambiguous.** Two paths whose names have no marks share a key only if they are the
same in lower case, or if the key is the bare name of both. A key with marks has one path. -/
theorem markupKeys_unambiguous {a b k : Text} (ha : ∀ part ∈ lowerParts a, ':' ∉ part ∧ '@' ∉ part)
    (hb : ∀ part ∈ lowerParts b, ':' ∉ part ∧ '@' ∉ part) (hka : k ∈ markupKeys a) (hkb : k ∈ markupKeys b) :
    (lowerParts a = lowerParts b ∨ ∃ name, IsBare (lowerParts a) name ∧ IsBare (lowerParts b) name) ∧
    (':' ∈ k ∨ '@' ∈ k → lowerParts a = lowerParts b) := by
  obtain ⟨marks, names, hreads, hpath⟩ := exists_reads_of_mem_markupKeys hka ha
  obtain ⟨marks', names', hreads', hpath'⟩ := exists_reads_of_mem_markupKeys hkb hb
  obtain ⟨rfl, rfl⟩ := hreads.unique hreads'
  have hmarked : ':' ∈ k ∨ '@' ∈ k → marks ≠ [] := by
    rw [← hreads.eq.1]
    rintro (h | h) <;> exact List.ne_nil_of_mem (List.mem_filter.mpr ⟨h, rfl⟩)
  rcases hpath with ⟨rfl, hbare⟩ | ⟨hne, hback⟩
  · rcases hpath' with ⟨-, hbare'⟩ | ⟨hne, -⟩
    · exact ⟨.inr ⟨k, hbare, hbare'⟩, fun h => absurd rfl (hmarked h)⟩
    · exact absurd rfl hne
  · rcases hpath' with ⟨hnil, -⟩ | ⟨-, hback'⟩
    · exact absurd hnil hne
    · have hsame : lowerParts a = lowerParts b := hback.symm.trans hback'
      exact ⟨.inl hsame, fun _ => hsame⟩

/-- Two spellings of an attribute. -/
theorem markupKeys_unambiguous_popover :
    let a : Text := "html.elements.button.popoverTarget"
    let b : Text := "html.elements.Button.popovertarget"
    let k : Text := "button@popovertarget"
    (∀ part ∈ lowerParts a, ':' ∉ part ∧ '@' ∉ part) ∧ (∀ part ∈ lowerParts b, ':' ∉ part ∧ '@' ∉ part) ∧
      k ∈ markupKeys a ∧ k ∈ markupKeys b ∧ lowerParts a = lowerParts b := by
  intro a b k
  have ha : ∀ part ∈ lowerParts a, ':' ∉ part ∧ '@' ∉ part := by decide
  have hb : ∀ part ∈ lowerParts b, ':' ∉ part ∧ '@' ∉ part := by decide
  have hka : k ∈ markupKeys a := by decide
  have hkb : k ∈ markupKeys b := by decide
  exact ⟨ha, hb, hka, hkb, (markupKeys_unambiguous ha hb hka hkb).2 (.inr (by decide))⟩

end WebBaseline.Feature
