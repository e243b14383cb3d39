import WebBaseline.Feature.Record
import WebBaseline.Proofs.Text.Blank

/-! Members of a dataset's values.

Only an object has members (`HasMember`), so reading a member of anything else gives nothing and cannot
fail. A member counts as a text if it is a string that is not blank (`HasText`). -/
namespace WebBaseline

namespace Json

/-- The value is an object that has this member. -/
def HasMember (j : Json) (name : Text) (value : Json) : Prop :=
  ∃ members, j = .obj members ∧ lookup name members = some value

theorem get?_eq_some_iff {j : Json} {name : Text} {value : Json} :
    j.get? name = some value ↔ j.HasMember name value := by
  cases j with
  | obj members =>
    constructor
    · intro h
      exact ⟨members, rfl, h⟩
    · rintro ⟨_, hj, h⟩
      cases hj
      exact h
  | null | bool | int | real | str | arr =>
    constructor
    · intro h
      cases h
    · rintro ⟨_, h, -⟩
      cases h

theorem get?_eq_none_iff {j : Json} {name : Text} :
    j.get? name = none ↔ ∀ value, ¬ j.HasMember name value := by
  simp only [Option.eq_none_iff_forall_ne_some, ne_eq, get?_eq_some_iff]

theorem str?_eq_some_iff {j : Json} {s : Text} : j.str? = some s ↔ j = .str s := by
  cases j <;> simp [str?]

theorem isObject_iff {j : Json} : j.isObject = true ↔ ∃ members, j = .obj members := by
  cases j <;> simp [isObject, members?]

end Json

namespace Feature

/-- The member is a string that is not blank, and `t` is what is left of it without the blanks at its
ends. -/
def HasText (entry : Json) (name t : Text) : Prop :=
  ∃ s, entry.HasMember name (.str s) ∧ (∃ c ∈ s, Text.isBlank c = false) ∧ t = Text.strip s

theorem HasText.ne_nil {entry : Json} {name t : Text} (h : HasText entry name t) : t ≠ [] := by
  obtain ⟨s, -, hs, rfl⟩ := h
  exact Text.strip_ne_nil_iff.mpr hs

theorem textMember?_eq_some_iff {entry : Json} {name t : Text} :
    textMember? entry name = some t ↔ HasText entry name t := by
  simp only [textMember?, Option.bind_eq_some_iff, Json.get?_eq_some_iff, Json.str?_eq_some_iff,
    Text.stripped?_eq_some_iff]
  constructor
  · rintro ⟨s, ⟨_, hmember, rfl⟩, rfl, hne⟩
    exact ⟨s, hmember, Text.strip_ne_nil_iff.mp hne, rfl⟩
  · rintro ⟨s, hmember, hs, rfl⟩
    exact ⟨s, ⟨_, hmember, rfl⟩, rfl, Text.strip_ne_nil_iff.mpr hs⟩

end Feature

end WebBaseline
