import WebBaseline.Proofs.Step
import WebBaseline.Settings

/-! What the values of a document are read as.

A list of texts gives core properties, and a name of a severity gives the severity; any other value is a failure
(`decides_coreOf`, `decides_severityOf`). -/
namespace WebBaseline

/-! ### Names of severities -/

/-- The text is a name of one of the severities, but for its case and blanks at its ends. -/
def Severity.Named (s : Text) (v : Severity) : Prop :=
  v ∈ Severity.all ∧ (Text.strip s).lower = v.name

theorem Severity.ofText?_eq_some_iff {s : Text} {v : Severity} : ofText? s = some v ↔ Named s v := by
  constructor
  · intro h
    unfold ofText? at h
    have hname := List.find?_some h
    exact ⟨List.mem_of_find?_eq_some h, (of_decide_eq_true hname).symm⟩
  · rintro ⟨hmem, hname⟩
    unfold ofText?
    rw [hname]
    simp only [all, List.mem_cons, List.not_mem_nil, or_false] at hmem
    rcases hmem with rfl | rfl | rfl | rfl <;> decide

namespace Settings

/-- What is read from a value, if there is one. -/
def readOr {α β : Type} (default : α) (read : β → Except Failure α) : Option β → Except Failure α
  | none => .ok default
  | some value => read value

theorem decides_readOr {α β : Type} (default : α) {read : β → Except Failure α}
    {bad : β → Failure → Prop} {good : β → α → Prop}
    (h : ∀ value, Decides (bad value) (good value) (read value)) (found : Option β) :
    Decides (fun f => ∃ value, found = some value ∧ bad value f)
      (fun a => (∃ value, found = some value ∧ good value a) ∨ found = none ∧ a = default)
      (readOr default read found) := by
  cases found with
  | none => exact (Decides.ok (.inr ⟨rfl, rfl⟩)).congr (by simp) fun _ => id
  | some value => exact (h value).congr (by simp) fun a ha => .inl ⟨value, rfl, ha⟩

/-! ### Values -/

theorem texts?_eq_some_iff {items : List Toml} {names : List Text} :
    texts? items = some names ↔ items = names.map .str := by
  induction items generalizing names with
  | nil => cases names <;> simp [texts?]
  | cons item rest ih =>
    simp only [texts?, Option.bind_eq_some_iff, Option.map_eq_some_iff, ih]
    constructor
    · rintro ⟨name, hname, rest, rfl, rfl⟩
      cases item <;> cases hname
      rfl
    · intro h
      obtain ⟨name, rest, rfl, rfl, rfl⟩ := List.map_eq_cons_iff.mp h.symm
      exact ⟨name, rfl, rest, rfl, rfl⟩

theorem strippedNames_eq (names : List Text) :
    strippedNames names = (names.map Text.strip).filter (· ≠ []) := by
  induction names with
  | nil => rfl
  | cons name rest ih =>
    unfold strippedNames at ih ⊢
    rw [List.filterMap_cons, ih, List.map_cons]
    by_cases h : Text.strip name = [] <;> simp [Text.stripped?, h]

/-- The value is a list of texts. -/
def IsTexts (value : Toml) : Prop :=
  ∃ names : List Text, value = .arr (names.map .str)

/-- The value names a severity. -/
def IsSeverity (value : Toml) : Prop :=
  ∃ s v, value = .str s ∧ Severity.Named s v

theorem decides_coreOf (shown : Text) (value : Toml) :
    Decides (fun f => f = .config (.coreProperties shown) ∧ ¬ IsTexts value)
      (fun core => ∃ names : List Text, value = .arr (names.map .str) ∧
        core = (names.map Text.strip).filter (· ≠ []))
      (coreOf shown value) := by
  unfold coreOf
  split
  · rename_i items
    split
    · rename_i names hnames
      obtain rfl := texts?_eq_some_iff.mp hnames
      have htexts : IsTexts (.arr (names.map .str)) := ⟨names, rfl⟩
      exact .ok_of_not (not_not_intro htexts) ⟨names, rfl, strippedNames_eq names⟩
    · rename_i hitems
      refine .error_of fun ⟨names, heq⟩ => ?_
      rw [texts?_eq_some_iff.mpr (Toml.arr.inj heq)] at hitems
      cases hitems
  · rename_i hother
    exact .error_of fun ⟨names, heq⟩ => hother _ heq

theorem decides_severityOf (depth : Nat) (value : Toml) :
    Decides (fun f => f = severityFailure depth value ∧ ¬ IsSeverity value)
      (fun v => ∃ s, value = .str s ∧ Severity.Named s v) (severityOf depth value) := by
  have hnamed (v : Severity) : value.str?.bind Severity.ofText? = some v ↔
      ∃ s, value = .str s ∧ Severity.Named s v := by
    cases value <;> simp [Toml.str?, Severity.ofText?_eq_some_iff]
  unfold severityOf
  split
  · rename_i v hv
    obtain ⟨s, hs, hname⟩ := (hnamed v).mp hv
    have hseverity : IsSeverity value := ⟨s, v, hs, hname⟩
    exact .ok_of_not (not_not_intro hseverity) ⟨s, hs, hname⟩
  · rename_i hnone
    have hseverity : ¬ IsSeverity value := fun ⟨s, v, hs, hname⟩ => by
      rw [(hnamed v).mpr ⟨s, hs, hname⟩] at hnone
      cases hnone
    exact .error_of hseverity

theorem decides_severityOf_str (depth : Nat) (s : Text) :
    Decides (fun f => f = severityFailure depth (.str s) ∧ ∀ v, ¬ Severity.Named s v)
      (Severity.Named s) (severityOf depth (.str s)) := by
  refine (decides_severityOf depth (.str s)).congr (fun f => and_congr_right fun _ => ?_) fun v hv => ?_
  · exact ⟨fun h v hv => h ⟨s, v, rfl, hv⟩, fun h ⟨_, v, heq, hv⟩ => by cases heq; exact h v hv⟩
  · obtain ⟨_, heq, hname⟩ := hv
    cases heq
    exact hname

end Settings

end WebBaseline
