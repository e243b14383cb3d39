import Mathlib.Data.List.TakeWhile
import WebBaseline.Proofs.Stylesheet.Comment
import WebBaseline.Proofs.Stylesheet.Segment
import WebBaseline.Proofs.Text.Case
import WebBaseline.Proofs.Text.Slice

/-! Findings point at the source.

Columns are counted on masked lines, from the start of a segment. Still a finding's range cuts out of
the raw line just what the finding is about: masking moves nothing, and what is looked up has no spaces,
so no part of it was masked (`prefix_of_maskLine`). `Placed.Names` says what a segment can be looked up
for and under which keys, `PointsAt` that this is what stands at the range of a finding, and
`scan_excerpt` that every finding does. -/
namespace WebBaseline.Stylesheet

/-! ### What a segment names -/

/-- The segment of a selector, if it does not start an at-rule. -/
def Placed.IsSelector (p : Placed) : Prop :=
  p.segment.terminator = some '{' ∨ p.depth = 0

/-- A segment names a feature by the text `s`, which is looked up under `key`. -/
inductive Placed.Names (p : Placed) : (s key : Text) → Prop where
  /-- An at-rule, by its name with the `@`. -/
  | atRule {s rest : Text} (h : Text.stripLeft p.segment.text = '@' :: rest)
    (hs : s = '@' :: rest.takeWhile isRuleChar) : p.Names s (Text.lower s)
  /-- A pseudo selector, by its name with the colons. -/
  | pseudo {s : Text} {m : Text.Match (Text × Text)} (h : p.IsSelector)
    (hm : m ∈ Text.Matches.all pseudo? p.segment.text) (hs : s = m.value.1 ++ m.value.2) :
    p.Names s (Text.lower s)
  /-- A property, by its name. -/
  | property {s : Text} {d : Declaration} (h : ¬ p.IsSelector)
    (hd : Declaration.parse? p.segment.text = some d) (hs : s = d.name) : p.Names s (Text.lower s)
  /-- A value of a property, by a token. -/
  | value {s : Text} {d : Declaration} (h : ¬ p.IsSelector)
    (hd : Declaration.parse? p.segment.text = some d) (hs : s ∈ valueTokens d.value) :
    p.Names s (Text.lower d.name ++ "::" ++ Text.lower s)

/-- A finding points at the source: at a stretch of the line `raw`, within the segment `p`, where the
line has, as it was written, what the segment names under the finding's key. -/
structure PointsAt (text : Text) (f : Finding) (p : Placed) (raw : Text) (start stop : Nat) : Prop where
  segment : p ∈ placedSegments text
  line : (Text.lines text)[p.line]? = some raw
  range : f.range = Range.onLine p.line start stop
  proper : start < stop
  inside : stop ≤ raw.length
  within : p.segment.start ≤ start ∧ stop ≤ p.segment.start + p.segment.text.length
  names : p.Names (raw.slice start stop) f.key

/-! ### What a spot covers -/

/-- The spot covers the text `w` of the segment `s`, and no part of it is masked. -/
structure Spot.Covers (s : Text) (spot : Spot) (w : Text) : Prop where
  here : w <+: s.drop spot.start
  stop : spot.stop = spot.start + w.length
  visible : ' ' ∉ w

/-! ### At-rules -/

theorem covers_atRule {s rest : Text} (h : Text.stripLeft s = '@' :: rest) :
    '@' :: rest.takeWhile isRuleChar <+: s.drop (s.length - (rest.length + 1)) := by
  have hsuffix : '@' :: rest <:+ s := h ▸ List.dropWhile_suffix _
  have hdrop : '@' :: rest = s.drop (s.length - (rest.length + 1)) :=
    List.suffix_iff_eq_drop.mp hsuffix
  rw [← hdrop, List.cons_prefix_cons]
  exact ⟨rfl, List.takeWhile_prefix _⟩

theorem names_atRuleSpots {p : Placed} {rest : Text}
    (h : Text.stripLeft p.segment.text = '@' :: rest) {spot : Spot}
    (hspot : spot ∈ atRuleSpots p.segment.text rest) :
    ∃ w, spot.Covers p.segment.text w ∧ p.Names w spot.key := by
  have hspace : ' ' ∉ rest.takeWhile isRuleChar := fun hm =>
    absurd (List.mem_takeWhile_imp hm) (by decide)
  have hsigma : 'Σ' ∉ rest.takeWhile isRuleChar := fun hm =>
    absurd (List.mem_takeWhile_imp hm) (by decide)
  have hkey : '@' :: Text.lower (rest.takeWhile isRuleChar) =
      Text.lower ('@' :: rest.takeWhile isRuleChar) :=
    (Text.lower_append (a := ['@']) (by decide) hsigma).symm
  simp only [atRuleSpots] at hspot
  split at hspot
  · cases hspot
  · rw [List.mem_singleton.mp hspot]
    refine ⟨'@' :: rest.takeWhile isRuleChar, ⟨covers_atRule h, rfl, by simp [hspace]⟩, ?_⟩
    simp only [hkey]
    exact .atRule h rfl

/-! ### Pseudo selectors -/

/-- What is read behind colons is a name. -/
theorem chars_of_named (colons : Text) {t : Text} {n : Nat} {value : Text × Text}
    (h : (if colons.isEmpty || (t.takeWhile isPseudoChar).isEmpty then none
      else some (colons.length + (t.takeWhile isPseudoChar).length, colons,
        t.takeWhile isPseudoChar)) = some (n, value)) :
    value.1 = colons ∧ ∀ c ∈ value.2, isPseudoChar c = true := by
  split at h
  · cases h
  · cases h
    exact ⟨rfl, fun c hc => List.mem_takeWhile_imp hc⟩

/-- The characters of a pseudo selector. -/
theorem chars_of_pseudo? {s : Text} {n : Nat} {value : Text × Text}
    (h : pseudo? s = some (n, value)) :
    (value.1 = ":".toList ∨ value.1 = "::".toList) ∧ ∀ c ∈ value.2, isPseudoChar c = true := by
  unfold pseudo? at h
  split at h
  · obtain ⟨hcolons, hname⟩ := chars_of_named "::" h
    exact ⟨.inr hcolons, hname⟩
  · obtain ⟨hcolons, hname⟩ := chars_of_named ":" h
    exact ⟨.inl hcolons, hname⟩
  · cases h

theorem names_pseudoSpots {p : Placed} (h : p.IsSelector) {spot : Spot}
    (hspot : spot ∈ pseudoSpots p.segment.text) :
    ∃ w, spot.Covers p.segment.text w ∧ p.Names w spot.key := by
  obtain ⟨m, hm, rfl⟩ := List.mem_map.mp hspot
  obtain ⟨before, rest, hs, hstart, hr⟩ := Text.Matches.exists_of_mem_all hm
  obtain ⟨behind, hrest, hlen, -, -⟩ := exists_of_pseudo? hr
  obtain ⟨hcolons, hname⟩ := chars_of_pseudo? hr
  have hspace : ' ' ∉ m.value.2 := fun hc => absurd (hname _ hc) (by decide)
  have hsigma : 'Σ' ∉ m.value.2 := fun hc => absurd (hname _ hc) (by decide)
  have hkey : m.value.1 ++ Text.lower m.value.2 = Text.lower (m.value.1 ++ m.value.2) := by
    rcases hcolons with hc | hc <;> rw [hc, Text.lower_append (by decide) hsigma] <;> rfl
  refine ⟨m.value.1 ++ m.value.2, ⟨?_, ?_, ?_⟩, ?_⟩
  · rw [hs, hstart, List.drop_left, hrest, ← List.append_assoc]
    exact List.prefix_append ..
  · simp only [Text.Match.stop, List.length_append, hlen]
  · rcases hcolons with hc | hc <;> rw [hc] <;> simpa using hspace
  · simp only [hkey]
    exact .pseudo h hm rfl

/-! ### Declarations -/

theorem names_declarationSpots {p : Placed} (h : ¬ p.IsSelector) {spot : Spot}
    (hspot : spot ∈ declarationSpots p.segment.text) :
    ∃ w, spot.Covers p.segment.text w ∧ p.Names w spot.key := by
  unfold declarationSpots at hspot
  split at hspot
  · cases hspot
  · rename_i d hd
    split at hspot
    · cases hspot
    · rcases List.mem_cons.mp hspot with rfl | hspot
      · obtain ⟨lead, gap, behind, hdeclares, hstart, -⟩ := exists_of_parse? hd
        have hspace : ' ' ∉ d.name := fun hc => absurd (isNameChar_of_parse? hd _ hc) (by decide)
        refine ⟨d.name, ⟨?_, rfl, hspace⟩, .property h hd rfl⟩
        simp only [propertySpot]
        rw [hdeclares.text_eq, ← hstart, List.drop_left]
        exact List.prefix_append ..
      · obtain ⟨token, htoken, hspot⟩ := List.mem_filterMap.mp hspot
        obtain ⟨i, hi, rfl⟩ := Option.map_eq_some_iff.mp hspot
        obtain ⟨before, rest, hdrop, hlen⟩ := Text.exists_of_find? hi
        have hspace : ' ' ∉ token := fun hc =>
          absurd (Text.free_of_mem_splitBy (List.mem_filter.mp htoken).1 _ hc) (by decide)
        refine ⟨token, ⟨?_, rfl, hspace⟩, .value h hd htoken⟩
        simp only
        rw [← List.drop_drop, hdrop, ← hlen, List.drop_left]
        exact List.prefix_append ..

theorem Placed.names_spots {p : Placed} {spot : Spot} (hspot : spot ∈ p.spots) :
    ∃ w, spot.Covers p.segment.text w ∧ p.Names w spot.key := by
  unfold Placed.spots at hspot
  split at hspot
  · cases hspot
  · rename_i rest h
    exact names_atRuleSpots h hspot
  · split at hspot
    · rename_i h
      exact names_pseudoSpots (by simpa [IsSelector] using h) hspot
    · rename_i h
      exact names_declarationSpots (by simpa [IsSelector] using h) hspot

/-! ### Segments in their lines -/

/-- A segment stands in its line where it says. -/
theorem prefix_of_mem_segments {start : Nat} {s : Text} {seg : Segment}
    (h : seg ∈ segments start s) : ∃ o, seg.start = start + o ∧ seg.text <+: s.drop o := by
  obtain ⟨a, b, rfl, hstart, -, -⟩ := exists_of_mem_segments h
  refine ⟨a.length, hstart, ?_⟩
  rw [List.drop_left]
  exact List.prefix_append ..

theorem of_mem_placed {line depth : Nat} {segs : List Segment} {p : Placed}
    (h : p ∈ placed line depth segs) : p.line = line ∧ p.segment ∈ segs := by
  induction segs generalizing depth with
  | nil => cases h
  | cons seg rest ih =>
    rcases List.mem_cons.mp h with rfl | h
    · exact ⟨rfl, List.mem_cons_self ..⟩
    · obtain ⟨hline, hseg⟩ := ih h
      exact ⟨hline, List.mem_cons_of_mem _ hseg⟩

theorem exists_of_mem_placedLines {line depth : Nat} {ls : List Text} {p : Placed}
    (h : p ∈ placedLines line depth ls) :
    ∃ i s, p.line = line + i ∧ ls[i]? = some s ∧ p.segment ∈ segments 0 s := by
  induction ls generalizing line depth with
  | nil => cases h
  | cons s rest ih =>
    rcases List.mem_append.mp h with h | h
    · obtain ⟨hline, hseg⟩ := of_mem_placed h
      exact ⟨0, s, hline, rfl, hseg⟩
    · obtain ⟨i, t, hline, ht, hseg⟩ := ih h
      exact ⟨i + 1, t, by omega, ht, hseg⟩

theorem exists_of_getElem?_maskLines {inside : Bool} {ls : List Text} {i : Nat} {s : Text}
    (h : (maskLines inside ls)[i]? = some s) :
    ∃ before raw, ls[i]? = some raw ∧ s = (maskLine before raw).1 := by
  induction ls generalizing inside i with
  | nil => cases h
  | cons raw rest ih =>
    rw [maskLines_cons] at h
    cases i with
    | zero => exact ⟨inside, raw, rfl, by simpa using h.symm⟩
    | succ i => exact ih h

/-- What stands in a masked line, without spaces, stands in the raw one. -/
theorem prefix_of_maskLine {inside : Bool} {raw w : Text} {o : Nat}
    (h : w <+: (maskLine inside raw).1.drop o) (hw : ' ' ∉ w) : w <+: raw.drop o := by
  rw [List.prefix_iff_getElem?] at h ⊢
  intro i hi
  have hmasked := h i hi
  rw [List.getElem?_drop] at hmasked ⊢
  rcases getElem?_maskLine hmasked with hspace | hraw
  · exact absurd (hspace ▸ List.getElem_mem hi) hw
  · exact hraw

/-- **A finding points at the source that it reports.** -/
theorem scan_excerpt (text : Text) (index : Index) (f : Finding) (hf : f ∈ scan text index) :
    ∃ p raw start stop, PointsAt text f p raw start stop := by
  rw [scan_eq_mentions] at hf
  obtain ⟨m, hm, hf⟩ := List.mem_filterMap.mp hf
  obtain ⟨p, hp, hm⟩ := List.mem_flatMap.mp hm
  obtain ⟨spot, hspot, rfl⟩ := List.mem_map.mp hm
  obtain ⟨w, hw, hnames⟩ := Placed.names_spots hspot
  obtain ⟨i, s, hline, hs, hseg⟩ := exists_of_mem_placedLines hp
  obtain ⟨inside, raw, hraw, rfl⟩ := exists_of_getElem?_maskLines hs
  obtain ⟨o, hstart, htext⟩ := prefix_of_mem_segments hseg
  rw [Nat.zero_add] at hline hstart
  have hhere : w <+: raw.drop (o + spot.start) :=
    prefix_of_maskLine (Text.prefix_drop_drop htext hw.here) hw.visible
  have hfits := Placed.fits_spots hspot
  have hproper := hfits.proper
  have hinside := hfits.inside
  have hstop := hw.stop
  have hne : w ≠ [] := List.length_pos_iff.mp (by omega)
  refine ⟨p, raw, o + spot.start, o + spot.start + w.length, {
    segment := hp
    line := hline ▸ hraw
    range := ?_
    proper := by omega
    inside := Text.add_length_le_of_prefix hhere hne
    within := by omega
    names := ?_ }⟩
  · rw [Mention.range_of_finding? hf, Spot.mention, hstart, hstop, Nat.add_assoc]
  · rw [Text.slice_of_prefix hhere, Mention.key_of_finding? hf]
    exact hnames

/-- A value behind two comments, one of which holds its name. -/
theorem scan_excerpt_display :
    let text : Text := "a\x7b\r\n/*grid*/Display: x/**/Grid\x7d"
    let index : Index :=
      { markup := [("display::grid", { id := "grid", name := [], status := .limited })] }
    let f : Finding := ⟨Range.onLine 1 22 26, .limited, "Display: Grid", "display::grid"⟩
    f ∈ scan text index ∧ ∃ p raw start stop, PointsAt text f p raw start stop := by
  intro text index f
  have hf : f ∈ scan text index := by decide +kernel
  exact ⟨hf, scan_excerpt text index f hf⟩

end WebBaseline.Stylesheet
