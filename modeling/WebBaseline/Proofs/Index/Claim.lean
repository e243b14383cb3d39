import WebBaseline.Proofs.Feature.MarkupKey
import WebBaseline.Proofs.Index.Contents

/-! The records behind a key.

Before core properties are pinned, the markup table has the keys that the records claim
(`isSome_base?_iff`), so all its keys are markup keys (`isMarkupKey_of_get?`). Records that do not claim a
key can be left out without a change to what is found under it (`get?_markup_leaveOut`,
`get?_script_leaveOut`). -/
namespace WebBaseline.Index

open Feature (Record IsMarkupKey)

/-! ### What gives a key its values -/

theorem valuesOf_derivedPairs_ne_nil_iff {records : List Record} {k : Text} :
    Table.valuesOf (derivedPairs records) k ≠ [] ↔
      ∃ r ∈ records, ∃ path ∈ r.paths, k ∈ Feature.markupKeys path := by
  rw [Table.valuesOf_ne_nil_iff]
  simp only [derivedPairs, List.mem_flatMap, List.mem_filter, List.mem_map]
  constructor
  · rintro ⟨row, ⟨r, hr, path, ⟨hpath, -⟩, key, hkey, rfl⟩, rfl⟩
    exact ⟨r, hr, path, hpath, hkey⟩
  · rintro ⟨r, hr, path, hpath, hkey⟩
    have hscript := Feature.isScriptPath_eq_false r.url (.inl hkey)
    exact ⟨(k, Entry.ofRecord r), ⟨r, hr, path, ⟨hpath, by simp [hscript]⟩, k, hkey, rfl⟩, rfl⟩

theorem valuesOf_pagePairs_ne_nil_iff {records : List Record} {k : Text} :
    Table.valuesOf (pagePairs records) k ≠ [] ↔
      ∃ r ∈ records, ∃ path ∈ r.paths, Feature.pageKey path r.url = some k := by
  rw [Table.valuesOf_ne_nil_iff]
  simp only [pagePairs, List.mem_flatMap, List.mem_filterMap, List.mem_filter, Option.map_eq_some_iff]
  constructor
  · rintro ⟨row, ⟨r, hr, path, ⟨hpath, -⟩, key, hkey, rfl⟩, rfl⟩
    exact ⟨r, hr, path, hpath, hkey⟩
  · rintro ⟨r, hr, path, hpath, hkey⟩
    have hscript := Feature.isScriptPath_eq_false r.url (.inr hkey)
    exact ⟨(k, Entry.ofRecord r), ⟨r, hr, path, ⟨hpath, by simp [hscript]⟩, k, hkey, rfl⟩, rfl⟩

theorem isSome_base?_iff {records : List Record} {k : Text} :
    (base? records k).isSome ↔ ∃ r ∈ records, r.ClaimsMarkup k := by
  have hsplit : (base? records k).isSome ↔
      Table.valuesOf (derivedPairs records) k ≠ [] ∨ Table.valuesOf (pagePairs records) k ≠ [] := by
    unfold base?
    split
    · rename_i entry hlast
      simp [List.ne_nil_of_mem (List.mem_of_getLast? hlast)]
    · rename_i hnone
      rw [List.getLast?_eq_none_iff.mp hnone, List.isSome_head?]
      simp
  rw [hsplit, valuesOf_derivedPairs_ne_nil_iff, valuesOf_pagePairs_ne_nil_iff]
  constructor
  · rintro (⟨r, hr, path, hpath, hk⟩ | ⟨r, hr, path, hpath, hk⟩)
    · exact ⟨r, hr, path, hpath, .inl hk⟩
    · exact ⟨r, hr, path, hpath, .inr hk⟩
  · rintro ⟨r, hr, path, hpath, hk | hk⟩
    · exact .inl ⟨r, hr, path, hpath, hk⟩
    · exact .inr ⟨r, hr, path, hpath, hk⟩

/-- All keys of the markup table are markup keys, if no core property has a full stop. -/
theorem isMarkupKey_of_get? {records : List Record} {core : List Text} {k : Text} {e : Entry}
    (hcore : ∀ raw ∈ core, '.' ∉ raw) (h : (ofRecords records core).markup.get? k = some e) :
    IsMarkupKey k := by
  rw [get?_ofRecords_markup] at h
  split at h
  · rename_i hk
    obtain ⟨hne, raw, hraw, rfl⟩ := hk
    exact Feature.isMarkupKey_lower (fun hnil => hne ((Text.lower_eq_nil_iff _).mpr hnil))
      fun hdot => hcore raw hraw (Text.mem_of_mem_strip hdot)
  · obtain ⟨r, -, hr⟩ := isSome_base?_iff.mp (Option.isSome_of_eq_some h)
    exact hr.isMarkupKey

/-! ### Records that do not claim a key -/

variable {mid : List Record} {k : Text}

theorem get?_markup_leaveOut (h : ∀ r ∈ mid, ¬ r.ClaimsMarkup k) (before after : List Record)
    (core : List Text) :
    (ofRecords (before ++ mid ++ after) core).markup.get? k =
      (ofRecords (before ++ after) core).markup.get? k := by
  have hderived : Table.valuesOf (derivedPairs mid) k = [] := by
    apply Classical.byContradiction
    intro hsome
    obtain ⟨r, hr, path, hpath, hk⟩ := valuesOf_derivedPairs_ne_nil_iff.mp hsome
    exact h r hr ⟨path, hpath, .inl hk⟩
  have hpages : Table.valuesOf (pagePairs mid) k = [] := by
    apply Classical.byContradiction
    intro hsome
    obtain ⟨r, hr, path, hpath, hk⟩ := valuesOf_pagePairs_ne_nil_iff.mp hsome
    exact h r hr ⟨path, hpath, .inr hk⟩
  have hbase : base? (before ++ mid ++ after) k = base? (before ++ after) k := by
    unfold base? derivedPairs pagePairs
    rw [Table.valuesOf_leaveOut hderived, Table.valuesOf_leaveOut hpages]
  rw [get?_ofRecords_markup, get?_ofRecords_markup, hbase]

theorem get?_script_leaveOut (h : ∀ r ∈ mid, ¬ r.ClaimsScript k) (before after : List Record)
    (core : List Text) :
    (ofRecords (before ++ mid ++ after) core).script.get? k =
      (ofRecords (before ++ after) core).script.get? k := by
  have hscript : Table.valuesOf (scriptPairs mid) k = [] := by
    apply Classical.byContradiction
    intro hsome
    obtain ⟨r, hr, path, hpath, -, hk⟩ := valuesOf_scriptPairs_ne_nil_iff.mp hsome
    exact h r hr ⟨path, hpath, hk⟩
  rw [get?_ofRecords_script, get?_ofRecords_script]
  unfold scriptPairs
  rw [Table.valuesOf_leaveOut hscript]

end WebBaseline.Index
