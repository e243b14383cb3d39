import Mathlib.Data.List.Basic
import WebBaseline.Proofs.Lookup.Candidate
import WebBaseline.Proofs.Stylesheet.Declaration

/-! What a look-up finds under a key.

A look-up strips the word it is given and lower-cases it before it tries any markup key. A key that both
leave alone is `Settled`, and such a key is found as it stands, on any line (`resolve_of_settled`). All
markup keys that are tried are settled (`settled_of_mem_markupCandidates`), and all that are tried for a word
with a full stop have one, too. So where the markup table has no such keys, the word is found as a script key
(`resolve_of_dot_mem`). -/
namespace WebBaseline.Lookup

/-! ### Settled keys -/

/-- A key, not empty, that stripping and lower-casing leave as it is. -/
structure Settled (k : Text) : Prop where
  ne_nil : k ≠ []
  trimmed : Text.IsTrimmed k
  low : ∀ c ∈ k, Text.IsLow c

theorem Settled.append {a b : Text} (ha : Settled a) (hb : Settled b) : Settled (a ++ b) where
  ne_nil := List.append_ne_nil_of_left_ne_nil ha.ne_nil b
  trimmed := ha.trimmed.append hb.trimmed
  low := List.forall_mem_append.mpr ⟨ha.low, hb.low⟩

/-- What a settled key ends with is settled behind a settled lead. -/
theorem Settled.append_suffix {a b c : Text} (ha : Settled a) (hb : Settled (b ++ c)) (hc : c ≠ []) :
    Settled (a ++ c) where
  ne_nil := List.append_ne_nil_of_left_ne_nil ha.ne_nil c
  trimmed := by
    constructor
    · intro x hx
      rw [List.head?_append_of_ne_nil a ha.ne_nil] at hx
      exact ha.trimmed.head x hx
    · intro x hx
      rw [List.getLast?_append_of_ne_nil a hc] at hx
      exact hb.trimmed.last x (List.mem_getLast?_append_of_mem_getLast? hx)
  low := List.forall_mem_append.mpr ⟨ha.low, (List.forall_mem_append.mp hb.low).2⟩

theorem settled_lower {s : Text} (hne : s ≠ []) (h : Text.IsTrimmed s) : Settled (Text.lower s) where
  ne_nil := fun hnil => hne ((Text.lower_eq_nil_iff s).mp hnil)
  trimmed := h.lowered
  low := fun _ => Text.isLow_of_mem_lower

theorem settled_of_mem_leads {lead : Text} (h : lead ∈ leads) : Settled lead := by
  have hall : ∀ lead ∈ leads, lead ≠ [] ∧
      (lead.all fun c => decide (Text.isBlank c = false ∧ Text.IsLow c)) = true := by decide +kernel
  obtain ⟨hne, hlead⟩ := hall lead h
  have hchars := Text.forall_mem_of_all hlead
  exact ⟨hne, Text.isTrimmed_of_forall fun c hc => (hchars c hc).1, fun c hc => (hchars c hc).2⟩

theorem settled_colons : Settled "::" :=
  settled_of_mem_leads (by decide)

theorem settled_at : Settled "@" :=
  settled_of_mem_leads (by decide)

/-! ### Keys that are tried -/

theorem settled_valueKey {d : Stylesheet.Declaration} {line key : Text}
    (hd : Stylesheet.Declaration.parse? line = some d) (hkey : Settled key) :
    Settled (Text.lower d.name ++ "::" ++ key) := by
  obtain ⟨lead, gap, rest, hdeclares, -, -⟩ := Stylesheet.exists_of_parse? hd
  have hname : Text.IsTrimmed d.name := Text.isTrimmed_of_forall fun c hc =>
    Stylesheet.not_isBlank_of_isNameChar (hdeclares.name_chars c hc)
  exact ((settled_lower hdeclares.name_ne_nil hname).append settled_colons).append hkey

/-- All keys that are tried for a settled one are settled. -/
theorem settled_of_mem_markupCandidates {key line k : Text} (hkey : Settled key)
    (hk : k ∈ markupCandidates key line) : Settled k := by
  rcases mem_markupCandidates.mp hk with rfl | hvalue | ⟨hbare, lead, hlead, rfl⟩
  · exact hkey
  · obtain ⟨d, hd, -, rfl⟩ := valueKey?_eq_some_iff.mp hvalue
    exact settled_valueKey hd hkey
  · obtain ⟨marks, hmarks⟩ := bare_suffix key
    exact (settled_of_mem_leads hlead).append_suffix (hmarks ▸ hkey) hbare

/-- A settled key is looked up as it stands. -/
theorem resolve_of_settled {index : Index} {k : Text} {e : Entry} (hk : Settled k)
    (he : index.markup.get? k = some e) (line : Text) : resolve index k line = some (k, e) := by
  have hkey : Text.lower (Text.strip k) = k := by rw [hk.trimmed.strip_eq, Text.lower_eq_self hk.low]
  have hfound := resolve_of_key (hk.trimmed.strip_eq.symm ▸ hk.ne_nil) (hkey.symm ▸ he) line
  rwa [hkey] at hfound

/-! ### Words with a full stop -/

theorem dot_mem_of_mem_markupCandidates {key line k : Text} (hdot : '.' ∈ key)
    (hk : k ∈ markupCandidates key line) : '.' ∈ k := by
  rcases mem_markupCandidates.mp hk with rfl | hvalue | ⟨-, lead, -, rfl⟩
  · exact hdot
  · obtain ⟨d, -, -, rfl⟩ := valueKey?_eq_some_iff.mp hvalue
    exact List.mem_append_right _ hdot
  · exact List.mem_append_right _ (Text.mem_dropWhile hdot (by decide))

/-- A word with a full stop is looked up as a script key, where no markup key has one. -/
theorem resolve_of_dot_mem {index : Index} {word : Text} {e : Entry}
    (hmarkup : ∀ k, '.' ∈ k → index.markup.get? k = none) (hdot : '.' ∈ word)
    (hstrip : Text.strip word = word) (he : index.script.get? word = some e) (line : Text) :
    resolve index word line = some (word, e) := by
  have hne : Text.strip word ≠ [] := hstrip.symm ▸ List.ne_nil_of_mem hdot
  refine resolve_eq_some_iff.mpr ⟨hne, .inr ⟨?_, hstrip.symm, he⟩⟩
  rw [hstrip]
  exact firstKnown_eq_none_iff.mpr fun k hk =>
    hmarkup k (dot_mem_of_mem_markupCandidates (Text.dot_mem_lower_iff.mpr hdot) hk)

end WebBaseline.Lookup
