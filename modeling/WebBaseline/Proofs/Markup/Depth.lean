import Mathlib.Data.List.Basic
import WebBaseline.Markup.Foreign

/-! How deep a run of foreign tags leads.

An opening tag leads one level deeper unless it closes itself, and a closing tag leads back, but never
below the ground (`depth`). A run of tags leads back to the ground exactly if it is made up of whole
elements, self-closing tags and stray closing tags (`depth_eq_zero_iff`). An element that is left behind
has been closed: what stands inside of it is balanced (`exists_close`). -/
namespace WebBaseline.Markup.ForeignTag

/-! ### Runs of tags -/

/-- The depth behind a tag. -/
def step (depth : Nat) : ForeignTag → Nat
  | .opening false => depth + 1
  | .opening true => depth
  | .closing => depth - 1

/-- How many elements are open behind a run of tags. -/
def depth (tags : List ForeignTag) : Nat :=
  tags.foldl step 0

/-- Tags that close what they open, and nothing else. -/
inductive Balanced : List ForeignTag → Prop where
  | nil : Balanced []
  | selfClosing {rest : List ForeignTag} : Balanced rest → Balanced (.opening true :: rest)
  | element {inner rest : List ForeignTag} : Balanced inner → Balanced rest →
    Balanced (.opening false :: inner ++ .closing :: rest)

/-- Tags that leave nothing open: elements, self-closing tags and closing tags that close nothing. -/
inductive Settled : List ForeignTag → Prop where
  | nil : Settled []
  | stray {before : List ForeignTag} : Settled before → Settled (before ++ [.closing])
  | selfClosing {before : List ForeignTag} : Settled before → Settled (before ++ [.opening true])
  | element {before inner : List ForeignTag} : Settled before → Balanced inner →
    Settled (before ++ .opening false :: inner ++ [.closing])

/-! ### Balanced runs -/

theorem Balanced.append {a b : List ForeignTag} (ha : Balanced a) (hb : Balanced b) :
    Balanced (a ++ b) := by
  induction ha with
  | nil => exact hb
  | selfClosing _ ih => exact ih.selfClosing
  | element hinner _ _ ih =>
    have := hinner.element ih
    simpa using this

/-- Balanced tags leave the depth as it is. -/
theorem foldl_balanced {tags : List ForeignTag} (h : Balanced tags) (d : Nat) :
    tags.foldl step d = d := by
  induction h generalizing d with
  | nil => rfl
  | selfClosing _ ih => exact ih d
  | element _ _ ihInner ihRest =>
    rw [List.foldl_append, List.foldl_cons, List.foldl_cons, ihInner, ihRest]
    rfl

theorem depth_append (a b : List ForeignTag) : depth (a ++ b) = b.foldl step (depth a) :=
  List.foldl_append

/-! ### What is open, and what is closed -/

/-- Where elements are open, all is balanced behind the opening tag of the innermost one. -/
theorem exists_open {tags : List ForeignTag} {d : Nat} (h : depth tags = d + 1) :
    ∃ outer inner, tags = outer ++ .opening false :: inner ∧ Balanced inner ∧ depth outer = d := by
  -- The induction is on the length: behind a closing tag the search goes on before its element.
  induction hn : tags.length using Nat.strongRecOn generalizing tags d with
  | _ n ih =>
    rcases List.eq_nil_or_concat' tags with rfl | ⟨init, last, rfl⟩
    · cases h
    · rw [List.length_append, List.length_singleton] at hn
      rw [depth_append] at h
      match last with
      | .opening false => exact ⟨init, [], rfl, .nil, Nat.succ.inj h⟩
      | .opening true =>
        obtain ⟨outer, inner, rfl, hinner, houter⟩ := ih init.length (by omega) h rfl
        exact ⟨outer, inner ++ [.opening true], by simp, hinner.append Balanced.nil.selfClosing, houter⟩
      | .closing =>
        have hinit : depth init = d + 1 + 1 := by
          have : depth init - 1 = d + 1 := h
          omega
        obtain ⟨outer, inner, rfl, hinner, houter⟩ := ih init.length (by omega) hinit rfl
        obtain ⟨outer', inner', rfl, hinner', houter'⟩ := ih outer.length (by
          simp only [List.length_append, List.length_cons] at hn
          omega) houter rfl
        refine ⟨outer', inner' ++ (.opening false :: inner ++ [.closing]), by simp, ?_, houter'⟩
        exact hinner'.append (hinner.element .nil)

/-- Nothing is open exactly behind settled tags. -/
theorem depth_eq_zero_iff {tags : List ForeignTag} : depth tags = 0 ↔ Settled tags := by
  constructor
  · intro h
    induction hn : tags.length using Nat.strongRecOn generalizing tags with
    | _ n ih =>
      rcases List.eq_nil_or_concat' tags with rfl | ⟨init, last, rfl⟩
      · exact .nil
      · rw [List.length_append, List.length_singleton] at hn
        rw [depth_append] at h
        match last with
        | .opening false => cases h
        | .opening true => exact (ih init.length (by omega) h rfl).selfClosing
        | .closing =>
          have hinit : depth init - 1 = 0 := h
          rcases Nat.eq_zero_or_pos (depth init) with hzero | hpos
          · exact (ih init.length (by omega) hzero rfl).stray
          · have hone : depth init = 0 + 1 := by omega
            obtain ⟨outer, inner, rfl, hinner, houter⟩ := exists_open hone
            rw [List.length_append] at hn
            exact (ih outer.length (by omega) houter rfl).element hinner
  · intro h
    induction h with
    | nil => rfl
    | stray _ ih => rw [depth_append, ih]; rfl
    | selfClosing _ ih => rw [depth_append, ih]; rfl
    | @element _ inner _ hinner ih =>
      rw [List.append_assoc, depth_append, ih, List.foldl_append]
      show step (inner.foldl step 1) .closing = 0
      rw [foldl_balanced hinner]
      rfl

/-- An element that is left behind is closed: its closing tag is the first one that what stands
before it does not need. -/
theorem exists_close {tags : List ForeignTag} {d : Nat} (h : tags.foldl step (d + 1) ≤ d) :
    ∃ inner, Balanced inner ∧ inner ++ [.closing] <+: tags := by
  induction hn : tags.length using Nat.strongRecOn generalizing tags d with
  | _ n ih =>
    match tags with
    | [] => exact absurd h (Nat.not_succ_le_self d)
    | .closing :: rest => exact ⟨[], .nil, by simp⟩
    | .opening true :: rest =>
      rw [List.length_cons] at hn
      have hstep : rest.foldl step (d + 1) ≤ d := h
      obtain ⟨inner, hinner, hrest⟩ := ih rest.length (by omega) hstep rfl
      exact ⟨.opening true :: inner, hinner.selfClosing, by simpa using hrest⟩
    | .opening false :: rest =>
      rw [List.length_cons] at hn
      have hstep : rest.foldl step (d + 1 + 1) ≤ d := h
      obtain ⟨first, hfirst, behind, rfl⟩ := ih rest.length (by omega) (Nat.le_succ_of_le hstep) rfl
      rw [List.foldl_append, List.foldl_append, foldl_balanced hfirst] at hstep
      simp only [List.length_append] at hn
      obtain ⟨second, hsecond, hbehind⟩ := ih behind.length (by omega) hstep rfl
      refine ⟨.opening false :: first ++ .closing :: second, hfirst.element hsecond, ?_⟩
      simpa using hbehind

end WebBaseline.Markup.ForeignTag
