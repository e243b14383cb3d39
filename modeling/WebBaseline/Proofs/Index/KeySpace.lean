import WebBaseline.Proofs.Index.Claim

/-! Keys of both tables.

A script key with a full stop is no markup key, and one without is the bare name of an interface. Such a
name keeps its case, so it is a markup key, too, if it is written in lower case and a record claims it as
one. `shared_key_iff` says that both tables of a dataset without core properties share these keys and no
others; `gap` can be one of them (`shared_key_gap`). -/
namespace WebBaseline.Feature

/-! ### Paths of accepted entries -/

theorem isTrimmed_of_mem_entryPaths {entry : Json} {path : Text} (h : path ∈ entryPaths entry) :
    Text.IsTrimmed path := by
  unfold entryPaths at h
  split at h
  · obtain ⟨item, -, hitem⟩ := List.mem_filterMap.mp h
    obtain ⟨raw, -, hraw⟩ := Option.bind_eq_some_iff.mp hitem
    obtain ⟨rfl, -⟩ := Text.stripped?_eq_some_iff.mp hraw
    exact Text.isTrimmed_strip raw
  · cases h

theorem paths_of_ofJson? {render : Renderer} {table id entry : Json} {r : Record}
    (h : Record.ofJson? render table id entry = some r) : r.paths = entryPaths entry := by
  unfold Record.ofJson? at h
  obtain ⟨id, -, h⟩ := Option.bind_eq_some_iff.mp h
  obtain ⟨-, -, h⟩ := Option.bind_eq_some_iff.mp h
  obtain ⟨-, -, h⟩ := Option.bind_eq_some_iff.mp h
  obtain ⟨status, -, h⟩ := Option.bind_eq_some_iff.mp h
  cases h
  rfl

theorem isTrimmed_of_mem_paths {render : Renderer} {table : Json} {dataset : Dataset} {r : Record}
    (hr : r ∈ records render table dataset) {path : Text} (h : path ∈ r.paths) :
    Text.IsTrimmed path := by
  obtain ⟨⟨id, entry⟩, -, hentry⟩ := List.mem_filterMap.mp hr
  rw [paths_of_ofJson? hentry] at h
  exact isTrimmed_of_mem_entryPaths h

end WebBaseline.Feature

namespace WebBaseline.Index

/-- **The keys that both tables have.** They are the names of interfaces that records also claim as markup
keys. -/
theorem shared_key_iff (render : Feature.Renderer) (table : Json) (dataset : Feature.Dataset)
    (k : Text) :
    let records := Feature.records render table dataset
    let index := build render table dataset []
    (index.markup.get? k).isSome ∧ (index.script.get? k).isSome ↔
      (∃ r ∈ records, r.ClaimsMarkup k) ∧ ∃ r ∈ records, "api." ++ k ∈ r.paths := by
  intro records index
  have hmarkup : (index.markup.get? k).isSome ↔ ∃ r ∈ records, r.ClaimsMarkup k := by
    have hcore : ¬ IsCore [] k := fun ⟨_, _, hraw, _⟩ => by cases hraw
    rw [← isSome_base?_iff]
    simp only [index, build, get?_ofRecords_markup, if_neg hcore]
    rfl
  rw [hmarkup]
  apply and_congr_right
  rintro ⟨r, -, hr⟩
  have hk := hr.isMarkupKey
  simp only [index, build, isSome_get?_script_iff]
  constructor
  · rintro ⟨r, hr, path, hpath, hscript⟩
    have htrimmed := Feature.isTrimmed_of_mem_paths hr hpath
    rw [Feature.bare_mem_scriptKeys_iff htrimmed hk.ne_nil hk.undotted] at hscript
    exact ⟨r, hr, hscript ▸ hpath⟩
  · rintro ⟨r, hr, hpath⟩
    have htrimmed := Feature.isTrimmed_of_mem_paths hr hpath
    exact ⟨r, hr, _, hpath,
      (Feature.bare_mem_scriptKeys_iff htrimmed hk.ne_nil hk.undotted).mpr rfl⟩

/-- An interface with the name of a property. -/
theorem shared_key_gap :
    let entry : Json := .obj [("baseline", .str "low"),
      ("compat_features", .arr [.str "css.properties.gap", .str "api.gap"])]
    let index := build some .null [("gap", entry)] []
    (index.markup.get? "gap").isSome ∧ (index.script.get? "gap").isSome := by
  decide +kernel

end WebBaseline.Index
