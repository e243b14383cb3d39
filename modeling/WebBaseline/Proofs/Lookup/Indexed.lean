import WebBaseline.Proofs.Index.Claim
import WebBaseline.Proofs.Lookup.Settled

/-! Indexed keys can be looked up.

A key comes into the markup table of a dataset from a path, from a page or from a core property. Each way
gives keys in lower case and without full stops. So a key without blanks at its ends is found as it stands,
and what is tried in the markup table for a script key with a full stop is never there
(`resolve_indexed`). -/
namespace WebBaseline

/-- **Every key of a built index can be looked up**, on any line, where it has no blanks at its ends: a
markup key always, a script key if it has a full stop. -/
theorem resolve_indexed (render : Feature.Renderer) (table : Json) (dataset : Feature.Dataset)
    (core : List Text) (hcore : ∀ raw ∈ core, '.' ∉ raw) :
    let index := Index.build render table dataset core
    (∀ k e, index.markup.get? k = some e →
      k ≠ [] ∧ Text.lower k = k ∧ '.' ∉ k ∧
        (Text.strip k = k → ∀ line, Lookup.resolve index k line = some (k, e))) ∧
    (∀ k e, index.script.get? k = some e → '.' ∈ k → Text.strip k = k →
      ∀ line, Lookup.resolve index k line = some (k, e)) := by
  intro index
  have hmarkup : ∀ k e, index.markup.get? k = some e → Feature.IsMarkupKey k :=
    fun k e he => Index.isMarkupKey_of_get? hcore he
  constructor
  · intro k e he
    have hk := hmarkup k e he
    refine ⟨hk.ne_nil, Text.lower_eq_self hk.low, hk.undotted, fun hstrip => ?_⟩
    have htrimmed : Text.IsTrimmed k := hstrip ▸ Text.isTrimmed_strip k
    exact Lookup.resolve_of_settled ⟨hk.ne_nil, htrimmed, hk.low⟩ he
  · intro k e he hdot hstrip
    have hnone : ∀ key, '.' ∈ key → index.markup.get? key = none := by
      intro key hkey
      apply Option.eq_none_iff_forall_ne_some.mpr
      intro e he
      exact (hmarkup key e he).undotted hkey
    exact Lookup.resolve_of_dot_mem hnone hdot hstrip he

/-- Two records and a core property. On the line, the script key is also a value of a declaration. -/
theorem resolve_indexed_clipboard :
    let record (path : Text) : Json :=
      .obj [("baseline", .str "low"), ("mdn_url", .str "p"), ("compat_features", .arr [.str path])]
    let dataset : Feature.Dataset :=
      [("road", record "css.properties.ΑΣ"), ("read", record "api.Navigator.clipboard")]
    let core : List Text := ["\tGap "]
    let index := Index.build some .null dataset core
    let road : Text := "ας"
    let clipboard : Text := "Navigator.clipboard"
    let line : Text := "gap: Navigator.clipboard"
    (∀ raw ∈ core, '.' ∉ raw) ∧ (index.markup.get? "gap").isSome ∧
      (∃ e, index.markup.get? road = some e ∧ Lookup.resolve index road line = some (road, e)) ∧
      ∃ e, index.script.get? clipboard = some e ∧
        Lookup.resolve index clipboard line = some (clipboard, e) := by
  intro record dataset core index road clipboard line
  have hcore : ∀ raw ∈ core, '.' ∉ raw := by decide
  have hknown : (index.markup.get? "gap").isSome ∧ (index.markup.get? road).isSome ∧
      (index.script.get? clipboard).isSome := by decide +kernel
  obtain ⟨hmarkup, hscript⟩ := resolve_indexed some .null dataset core hcore
  obtain ⟨hgap, hroad, hclipboard⟩ := hknown
  obtain ⟨e, he⟩ := Option.isSome_iff_exists.mp hroad
  obtain ⟨e', he'⟩ := Option.isSome_iff_exists.mp hclipboard
  exact ⟨hcore, hgap, ⟨e, he, (hmarkup road e he).2.2.2 (by decide) line⟩,
    e', he', hscript clipboard e' he' (by decide) (by decide) line⟩

end WebBaseline
