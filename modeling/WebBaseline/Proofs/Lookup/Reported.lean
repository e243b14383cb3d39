import WebBaseline.Proofs.Lookup.Settled
import WebBaseline.Proofs.Markup.Excerpt
import WebBaseline.Proofs.Scan.Soundness
import WebBaseline.Proofs.Stylesheet.Value

/-! Reported keys can be looked up.

A scanner puts a key together from parts that it has lower-cased one by one, and from marks between them.
No part has a blank at its ends, and lower-casing the whole key again changes none of them. So the key of
a finding is settled, and looking it up, on any line, gives the entry that was reported
(`resolve_reported`). -/
namespace WebBaseline

open Lookup (Settled settled_lower settled_colons settled_at)

/-! ### Style sheets -/

namespace Stylesheet

theorem not_isBlank_of_mem_name {s : Text} {d : Declaration} (h : Declaration.parse? s = some d) :
    ∀ c ∈ d.name, Text.isBlank c = false :=
  fun c hc => not_isBlank_of_isNameChar (isNameChar_of_parse? h c hc)

theorem settled_of_names {p : Placed} {s key : Text} (h : p.Names s key) (hs : s ≠ []) :
    Settled key := by
  cases h with
  | atRule hat heq =>
    apply settled_lower hs
    subst heq
    refine Text.isTrimmed_of_forall (List.forall_mem_cons.mpr ⟨by decide, fun c hc => ?_⟩)
    exact Text.not_isBlank_of (by decide +kernel) (List.mem_takeWhile_imp hc)
  | pseudo hsel hm heq =>
    apply settled_lower hs
    subst heq
    obtain ⟨before, rest, -, -, hr⟩ := Text.Matches.exists_of_mem_all hm
    obtain ⟨hcolons, hname⟩ := chars_of_pseudo? hr
    refine Text.isTrimmed_of_forall (List.forall_mem_append.mpr ⟨?_, fun c hc => ?_⟩)
    · rcases hcolons with h | h <;> rw [h] <;> exact Text.forall_mem_of_all (by decide)
    · exact Text.not_isBlank_of (by decide +kernel) (hname c hc)
  | property hsel hd heq =>
    apply settled_lower hs
    subst heq
    exact Text.isTrimmed_of_forall (not_isBlank_of_mem_name hd)
  | value hsel hd htoken =>
    have hlower := settled_lower (of_mem_valueTokens htoken).1 (isTrimmed_of_mem_valueTokens htoken)
    exact Lookup.settled_valueKey hd hlower

theorem settled_of_mem_scan {text : Text} {index : Index} {f : Finding} (h : f ∈ scan text index) :
    Settled f.key := by
  obtain ⟨p, -, spot, hspot, hf⟩ := exists_spot_of_mem_scan h
  obtain ⟨w, hw, hnames⟩ := Placed.names_spots hspot
  have hproper := (Placed.fits_spots hspot).proper
  have hstop := hw.stop
  rw [Mention.key_of_finding? hf]
  exact settled_of_names hnames (List.length_pos_iff.mp (by omega))

end Stylesheet

/-! ### Documents -/

namespace Markup

theorem settled_tagName {masked : Text} {t : Text.Match Tag}
    (ht : t ∈ Text.Matches.all Tag.recognise masked) : Settled (Text.lower t.value.name) := by
  obtain ⟨before, rest, -, -, hread⟩ := Text.Matches.exists_of_mem_all ht
  refine settled_lower (of_mem_tags ht).1 (Text.isTrimmed_of_forall fun c hc => ?_)
  exact Text.not_isBlank_of (by decide +kernel) (Tag.isTagChar_of_recognise hread c hc)

theorem settled_attributeName {t : Text.Match Tag} {a : Text.Match Attribute}
    (ha : a ∈ attributes t) : Settled (Text.lower a.value.name) := by
  obtain ⟨before, rest, -, -, hread⟩ := Text.Matches.exists_of_mem_all ha
  refine settled_lower (name_ne_nil_of_recognise hread) (Text.isTrimmed_of_forall fun c hc => ?_)
  have hchar := Attribute.isAttributeChar_of_recognise hread c hc
  simp only [isAttributeChar, Bool.not_eq_true', Bool.or_eq_false_iff] at hchar
  exact hchar.1.1.1.1.1.1

theorem settled_of_names {masked : Text} {t : Text.Match Tag}
    (ht : t ∈ Text.Matches.all Tag.recognise masked) {start : Nat} {s key : Text}
    (h : Names t start s key) : Settled key := by
  have htag := settled_tagName ht
  rcases h with heq | ⟨ha, heq⟩ | ⟨ha, heq⟩ | ⟨ha, -⟩
  · subst heq
    exact htag
  · subst heq
    exact settled_attributeName ha
  · subst heq
    exact (htag.append settled_at).append (settled_attributeName ha)
  · have hname := (htag.append settled_at).append (settled_attributeName ha)
    have hlead := hname.append settled_colons
    by_cases hblank : Text.strip s = []
    · rw [hblank, show Text.lower [] = [] from rfl, List.append_nil]
      exact hlead
    · exact hlead.append (settled_lower hblank (Text.isTrimmed_strip s))

theorem settled_of_mem_scan {text : Text} {index : Index} {f : Finding} (h : f ∈ scan text index) :
    Settled f.key := by
  obtain ⟨t, start, stop, hpoints⟩ := pointsAt_of_mem_scan h
  exact settled_of_names (mem_tags_of_scanned hpoints.tag) hpoints.names

end Markup

/-- **The key of a finding can be looked up.** On any line, the look-up gives the key back, with the entry
that was reported. -/
theorem resolve_reported (text : Text) (index : Index) (f : Finding)
    (hf : f ∈ Stylesheet.scan text index ∨ f ∈ Markup.scan text index) :
    ∃ e, index.markup.get? f.key = some e ∧ e.status = f.status ∧
      ∀ line, Lookup.resolve index f.key line = some (f.key, e) := by
  have hsettled : Settled f.key := hf.elim Stylesheet.settled_of_mem_scan Markup.settled_of_mem_scan
  have hreports : f.Reports index.markup :=
    hf.elim Stylesheet.reports_of_mem_scan Markup.reports_of_mem_scan
  obtain ⟨e, he, hstatus, -⟩ := hreports.entry
  exact ⟨e, he, hstatus, Lookup.resolve_of_settled hsettled he⟩

/-- A value that ends in a capital sigma and a blank: the key has the final sigma and no blank. -/
theorem resolve_reported_sigma :
    let text : Text := "<Li\nType='\tİΣ '>"
    let entry : Entry := { id := "mark", name := [], status := .newly }
    let key : Text := "li@type::i̇ς"
    let index : Index := { markup := [("type", entry), (key, entry)] }
    let f : Finding := ⟨Range.onLine 1 6 10, .newly, "Type=\"\tİΣ \"", key⟩
    f ∈ Markup.scan text index ∧ ∃ e, index.markup.get? f.key = some e ∧ e.status = f.status ∧
      ∀ line, Lookup.resolve index f.key line = some (f.key, e) := by
  intro text entry key index f
  have hf : f ∈ Markup.scan text index := by decide +kernel
  exact ⟨hf, resolve_reported text index f (.inr hf)⟩

end WebBaseline
