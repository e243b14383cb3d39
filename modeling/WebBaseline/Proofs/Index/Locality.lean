import WebBaseline.Proofs.Index.Claim

/-! What an edit of the dataset changes.

Records meet in the index only under keys that they claim: the last derived key wins, a page gives way to
any derived key, and a core property is pinned over what is there. So an edit in one place of the dataset
changes nothing under the keys that no record claims in that place, before or after the edit
(`build_local`). Entries that are not accepted as records change nothing at all. -/
namespace WebBaseline.Index

open Feature (Record)

variable (render : Feature.Renderer) (table : Json)

theorem records_append (a b : Feature.Dataset) :
    Feature.records render table (a ++ b) =
      Feature.records render table a ++ Feature.records render table b :=
  List.filterMap_append

/-- **An edit of the dataset is local.** The entries `old` between `before` and `after` are replaced by
`new`; either may be empty. Under a key that the records of neither claim, both indexes have the same. -/
theorem build_local (core : List Text) (before old new after : Feature.Dataset) :
    let edited := Feature.records render table (old ++ new)
    let index := build render table (before ++ old ++ after) core
    let index' := build render table (before ++ new ++ after) core
    (∀ k, (∀ r ∈ edited, ¬ r.ClaimsMarkup k) → index.markup.get? k = index'.markup.get? k) ∧
    (∀ k, (∀ r ∈ edited, ¬ r.ClaimsScript k) → index.script.get? k = index'.script.get? k) ∧
    ((∀ row ∈ new, Record.ofJson? render table (.str row.1) row.2 = none) →
      index' = build render table (before ++ after) core) := by
  simp only [build, records_append, List.forall_mem_append]
  refine ⟨fun k hk => ?_, fun k hk => ?_, fun hnew => ?_⟩
  · rw [get?_markup_leaveOut hk.1, get?_markup_leaveOut hk.2]
  · rw [get?_script_leaveOut hk.1, get?_script_leaveOut hk.2]
  · have hnone : Feature.records render table new = [] := List.filterMap_eq_nil_iff.mpr hnew
    rw [hnone, List.append_nil]

/-- A record is replaced by an entry that is none: its own key goes, and the others stay. -/
theorem build_local_gap :
    let record (path : Text) : Json :=
      .obj [("baseline", .str "low"), ("mdn_url", .str "p"), ("compat_features", .arr [.str path])]
    let before : Feature.Dataset := [("order", record "css.properties.order")]
    let old : Feature.Dataset := [("gap", record "css.properties.gap")]
    let new : Feature.Dataset := [("gap", .str "gap")]
    let after : Feature.Dataset := [("share", record "api.Navigator.share")]
    let edited := Feature.records some .null (old ++ new)
    let index := build some .null (before ++ old ++ after) []
    let index' := build some .null (before ++ new ++ after) []
    (index.markup.get? "gap").isSome ∧ index'.markup.get? "gap" = none ∧
      (∀ r ∈ edited, ¬ r.ClaimsMarkup "order") ∧
      index.markup.get? "order" = index'.markup.get? "order" ∧
      (∀ r ∈ edited, ¬ r.ClaimsScript "navigator.share") ∧
      index.script.get? "navigator.share" = index'.script.get? "navigator.share" ∧
      index' = build some .null (before ++ after) [] := by
  intro record before old new after edited index index'
  obtain ⟨hmarkup, hscript, hnew⟩ := build_local some .null [] before old new after
  have hgap : (index.markup.get? "gap").isSome ∧ index'.markup.get? "gap" = none ∧
      (∀ r ∈ edited, ¬ r.ClaimsMarkup "order") ∧
      ∀ r ∈ edited, ¬ r.ClaimsScript "navigator.share" := by decide +kernel
  obtain ⟨hold, hgone, hunclaimed, hunclaimed'⟩ := hgap
  exact ⟨hold, hgone, hunclaimed, hmarkup "order" hunclaimed, hunclaimed',
    hscript "navigator.share" hunclaimed', hnew (List.forall_mem_singleton.mpr rfl)⟩

end WebBaseline.Index
