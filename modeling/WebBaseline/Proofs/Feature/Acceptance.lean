import Mathlib.Data.Option.Basic
import WebBaseline.Proofs.Feature.Member

/-! Which entries of a dataset are accepted.

An entry of a feature has a recognised status at one of two places: in its `status` object, or in the entry
itself (`Documented`). Of two values only the one in the `status` object is looked at. So an entry is
accepted if it is documented and the value in its `status` object, if there is one, is recognised
(`Accepted`, `isSome_ofJson?_iff`). A value there that is not recognised hides one in the entry itself
(`shadowed_status`). The records of a dataset are those of its accepted entries, in order
(`records_yield`). -/
namespace WebBaseline

/-- How a dataset writes a tier. -/
inductive Status.Names : Json → Status → Prop where
  | limited : Names (.bool false) .limited
  | newly {s : Text} (h : (Text.strip s).lower = "low") : Names (.str s) .newly
  | widely {s : Text} (h : (Text.strip s).lower = "high") : Names (.str s) .widely

theorem Status.ofJson?_eq_some_iff {value : Json} {status : Status} :
    Status.ofJson? value = some status ↔ Status.Names value status := by
  constructor
  · intro h
    unfold Status.ofJson? at h
    split at h
    · cases h
      exact .limited
    · rename_i s
      simp only at h
      split at h
      · rename_i hword
        cases h
        exact .widely hword
      · split at h
        · rename_i hword
          cases h
          exact .newly hword
        · cases h
    · cases h
  · intro h
    cases h with
    | limited => rfl
    | newly h => simp [Status.ofJson?, h]
    | widely h => simp [Status.ofJson?, h]

namespace Feature

/-! ### Places of the status -/

/-- The value stands in the entry's `status` object. -/
def Nested (entry value : Json) : Prop :=
  ∃ status, entry.HasMember "status" status ∧ status.HasMember "baseline" value

/-- The value stands in the entry itself. -/
def TopLevel (entry value : Json) : Prop :=
  entry.HasMember "baseline" value

def Recognised (value : Json) : Prop :=
  ∃ status, Status.Names value status

theorem nested_iff {entry value : Json} :
    (entry.get? "status").bind (·.get? "baseline") = some value ↔ Nested entry value := by
  simp only [Option.bind_eq_some_iff, Json.get?_eq_some_iff, Nested]

theorem Nested.unique {entry a b : Json} (ha : Nested entry a) (hb : Nested entry b) : a = b := by
  rw [← nested_iff] at ha hb
  exact Option.some.inj (ha.symm.trans hb)

/-- The value in the `status` object goes before the one in the entry itself. -/
theorem rawStatus?_eq_some_iff {entry value : Json} :
    rawStatus? entry = some value ↔
      Nested entry value ∨ (∀ inner, ¬ Nested entry inner) ∧ TopLevel entry value := by
  unfold rawStatus?
  split
  · rename_i inner hinner
    have hnested := nested_iff.mp hinner
    rw [← nested_iff, hinner]
    constructor
    · exact Or.inl
    · rintro (h | ⟨h, -⟩)
      · exact h
      · exact absurd hnested (h inner)
  · rename_i hnone
    have hnested : ∀ inner, ¬ Nested entry inner := fun inner h => by
      rw [nested_iff.mpr h] at hnone
      cases hnone
    rw [Json.get?_eq_some_iff]
    constructor
    · exact fun h => .inr ⟨hnested, h⟩
    · rintro (h | ⟨-, h⟩)
      · exact absurd h (hnested value)
      · exact h

/-! ### Entries -/

/-- An entry that describes a feature, under an identifier that is not blank. -/
structure IsFeature (id entry : Json) : Prop where
  id : ∃ s, id = .str s ∧ ∃ c ∈ s, Text.isBlank c = false
  object : ∃ members, entry = .obj members
  kind : ∀ kind, entry.HasMember "kind" kind → kind = .str "feature"

/-- The entries that the data format has records for: features with a recognised status at one of the
places. -/
structure Documented (id entry : Json) : Prop extends IsFeature id entry where
  status : ∃ value, (Nested entry value ∨ TopLevel entry value) ∧ Recognised value

/-- The entries that are accepted: the documented ones without another value in the `status` object. -/
structure Accepted (id entry : Json) : Prop extends Documented id entry where
  nested : ∀ value, Nested entry value → Recognised value

theorem isFeature_iff {entry : Json} :
    isFeature entry = true ↔ (∃ members, entry = .obj members) ∧
      ∀ kind, entry.HasMember "kind" kind → kind = .str "feature" := by
  unfold isFeature
  rw [Bool.and_eq_true, Json.isObject_iff]
  apply and_congr_right
  intro _
  split
  · rename_i hnone
    exact iff_of_true rfl fun kind h => absurd h (Json.get?_eq_none_iff.mp hnone kind)
  · rename_i kind hkind
    rw [decide_eq_true_iff]
    constructor
    · rintro rfl value hvalue
      rw [← Json.get?_eq_some_iff, hkind] at hvalue
      exact (Option.some.inj hvalue).symm
    · intro h
      exact Json.str.inj (h _ (Json.get?_eq_some_iff.mp hkind))
  · rename_i value hother hvalue
    refine iff_of_false Bool.false_ne_true fun h => ?_
    exact hother _ (h value (Json.get?_eq_some_iff.mp hvalue))

/-- The value that counts is recognised just if one of the two is and the one in the `status` object, where
there is one, is. -/
theorem recognised_rawStatus?_iff {entry : Json} :
    (∃ value, rawStatus? entry = some value ∧ Recognised value) ↔
      (∃ value, (Nested entry value ∨ TopLevel entry value) ∧ Recognised value) ∧
        ∀ value, Nested entry value → Recognised value := by
  simp only [rawStatus?_eq_some_iff]
  constructor
  · rintro ⟨value, hvalue | ⟨hnone, hvalue⟩, hr⟩
    · exact ⟨⟨value, .inl hvalue, hr⟩, fun other hother => hvalue.unique hother ▸ hr⟩
    · exact ⟨⟨value, .inr hvalue, hr⟩, fun inner hinner => absurd hinner (hnone inner)⟩
  · rintro ⟨⟨value, hvalue | hvalue, hr⟩, hnested⟩
    · exact ⟨value, .inl hvalue, hr⟩
    · by_cases h : ∃ inner, Nested entry inner
      · obtain ⟨inner, hinner⟩ := h
        exact ⟨inner, .inl hinner, hnested inner hinner⟩
      · exact ⟨value, .inr ⟨fun inner hinner => h ⟨inner, hinner⟩, hvalue⟩, hr⟩

theorem accepted_iff {id entry : Json} :
    Accepted id entry ↔ IsFeature id entry ∧ ∃ value, rawStatus? entry = some value ∧ Recognised value := by
  rw [recognised_rawStatus?_iff]
  constructor
  · exact fun h => ⟨h.toIsFeature, h.status, h.nested⟩
  · exact fun ⟨hfeature, hstatus, hnested⟩ => ⟨⟨hfeature, hstatus⟩, hnested⟩

theorem isSome_ofJson?_iff (render : Renderer) (table id entry : Json) :
    (Record.ofJson? render table id entry).isSome ↔ Accepted id entry := by
  simp only [accepted_iff, Option.isSome_iff_exists, Record.ofJson?, Option.bind_eq_bind,
    Option.bind_eq_some_iff, Json.str?_eq_some_iff, Text.stripped?_eq_some_iff, Option.guard_eq_some',
    isFeature_iff, Recognised, ← Status.ofJson?_eq_some_iff]
  constructor
  · rintro ⟨r, s, rfl, _, ⟨rfl, hne⟩, _, ⟨hobject, hkind⟩, status, ⟨value, hvalue, hstatus⟩, -⟩
    exact ⟨⟨⟨s, rfl, Text.strip_ne_nil_iff.mp hne⟩, hobject, hkind⟩, value, hvalue, status, hstatus⟩
  · rintro ⟨⟨⟨s, rfl, hs⟩, hobject, hkind⟩, value, hvalue, status, hstatus⟩
    exact ⟨_, s, rfl, _, ⟨rfl, Text.strip_ne_nil_iff.mpr hs⟩, (), ⟨hobject, hkind⟩, status,
      ⟨value, hvalue, hstatus⟩, rfl⟩

/-! ### Datasets -/

/-- The records of a dataset, entry by entry: an accepted entry gives its record, and another one gives
nothing. -/
inductive Yields (render : Renderer) (table : Json) : Dataset → List Record → Prop where
  | nil : Yields render table [] []
  | accept {id : Text} {entry : Json} {r : Record} {rows : Dataset} {rs : List Record}
    (h : Accepted (.str id) entry) (hr : Record.ofJson? render table (.str id) entry = some r)
    (rest : Yields render table rows rs) : Yields render table ((id, entry) :: rows) (r :: rs)
  | skip {id : Text} {entry : Json} {rows : Dataset} {rs : List Record}
    (h : ¬ Accepted (.str id) entry) (rest : Yields render table rows rs) :
    Yields render table ((id, entry) :: rows) rs

theorem yields_records (render : Renderer) (table : Json) (dataset : Dataset) :
    Yields render table dataset (records render table dataset) := by
  induction dataset with
  | nil => exact .nil
  | cons row rows ih =>
    obtain ⟨id, entry⟩ := row
    have haccepted := isSome_ofJson?_iff render table (.str id) entry
    cases h : Record.ofJson? render table (.str id) entry with
    | none =>
      rw [h] at haccepted
      have hrecords : records render table ((id, entry) :: rows) = records render table rows :=
        List.filterMap_cons_none h
      rw [hrecords]
      exact .skip (fun hno => Bool.false_ne_true (haccepted.mpr hno)) ih
    | some r =>
      rw [h] at haccepted
      have hrecords : records render table ((id, entry) :: rows) = r :: records render table rows :=
        List.filterMap_cons_some h
      rw [hrecords]
      exact .accept (haccepted.mp rfl) h ih

/-- **The records of a dataset are those of its accepted entries, in order.** An entry is accepted just if
it is documented and no value in its `status` object is unrecognised. -/
theorem records_yield (render : Renderer) (table : Json) :
    (∀ id entry, (Record.ofJson? render table id entry).isSome ↔
      Documented id entry ∧ ∀ value, Nested entry value → Recognised value) ∧
    ∀ dataset, Yields render table dataset (records render table dataset) := by
  refine ⟨fun id entry => ?_, yields_records render table⟩
  rw [isSome_ofJson?_iff]
  exact ⟨fun h => ⟨h.toDocumented, h.nested⟩, fun ⟨hdocumented, hnested⟩ => ⟨hdocumented, hnested⟩⟩

/-- A null in the `status` object hides the status of the entry itself. -/
theorem shadowed_status :
    let entry : Json := .obj [("status", .obj [("baseline", .null)]), ("baseline", .str "low")]
    Documented (.str "x") entry ∧ Record.ofJson? some .null (.str "x") entry = none := by
  intro entry
  have hobject : ∃ members, entry = .obj members := ⟨_, rfl⟩
  have hkind : ∀ kind, ¬ entry.HasMember "kind" kind := Json.get?_eq_none_iff.mp rfl
  have hlow : TopLevel entry (.str "low") := Json.get?_eq_some_iff.mp rfl
  refine ⟨⟨⟨⟨_, rfl, 'x', by decide⟩, hobject, fun kind h => absurd h (hkind kind)⟩, ?_⟩, by decide⟩
  exact ⟨_, .inr hlow, .newly, .newly (by decide)⟩

end Feature

end WebBaseline
