import WebBaseline.Proofs.Stylesheet.Value

/-! No flagged part of a declaration is lost.

Inside a block, a segment that is written as a declaration mentions its property and each token of its value,
repetitions included: the search for a token never fails, since the token stands behind the colon
(`Declares.isSome_find?`). What is mentioned and flagged is reported, so the keys that a segment reports can
be told from its text alone. That is `scan_declarations`. -/
namespace WebBaseline.Stylesheet

/-! ### Segments with declarations -/

/-- The segment stands inside a block, starts no other one, and is no at-rule. -/
structure Placed.IsBody (p : Placed) : Prop where
  depth : 0 < p.depth
  terminator : p.segment.terminator ≠ some '{'
  no_rule : (Text.stripLeft p.segment.text).head? ≠ some '@'

theorem parse?_of_blank {s : Text} (h : Text.stripLeft s = []) : Declaration.parse? s = none := by
  rw [Text.stripLeft] at h
  simp [Declaration.parse?, h]

theorem Placed.IsBody.spots_eq {p : Placed} (h : p.IsBody) : p.spots = declarationSpots p.segment.text := by
  unfold Placed.spots
  split
  · rename_i hblank
    rw [declarationSpots, parse?_of_blank hblank]
  · rename_i hat
    exact absurd (congrArg List.head? hat) h.no_rule
  · rw [if_neg]
    simp [h.terminator, Nat.ne_of_gt h.depth]

/-- What is reported for a segment, by its keys. -/
theorem keys_scanSegment (index : Index) (p : Placed) :
    (scanSegment index p.line p.depth p.segment).map Finding.key =
      (p.spots.map Spot.key).filter index.markup.flags := by
  rw [scanSegment_eq, Mention.map_key_filterMap, Placed.mentions, List.map_map]
  rfl

/-! ### Keys of a declaration -/

/-- Custom properties are told by their names as they are written. -/
theorem isCustom_iff {name : Text} : (Text.lower name).startsWith "--" = true ↔ "--".toList <+: name := by
  rw [Text.startsWith_eq_true_iff]
  exact Text.prefix_lower_iff (Text.forall_mem_of_all (by decide +kernel))

namespace Declares

variable {s lead name gap rest token : Text}

theorem drop_name (h : Declares s lead name gap rest) :
    s.drop (lead.length + name.length) = gap ++ ':' :: rest := by
  rw [h.text_eq, ← List.append_assoc, ← List.length_append, List.drop_left]

theorem drop_colon (h : Declares s lead name gap rest) :
    s.drop (lead.length + name.length + gap.length) = ':' :: rest := by
  rw [← List.drop_drop, h.drop_name, List.drop_left]

/-- The search for the colon ends at the colon. -/
theorem find?_colon (h : Declares s lead name gap rest) :
    Text.find? ":" (s.drop (lead.length + name.length)) = some gap.length := by
  rw [h.drop_name]
  apply Text.find?_run
  intro hc
  exact absurd (h.gap_blank _ hc) (by decide)

/-- The search for a token does not fail. -/
theorem isSome_find? (h : Declares s lead name gap rest) (htoken : token ∈ Text.fields isValueSeparator rest) :
    (Text.find? token (s.drop (lead.length + name.length + gap.length))).isSome := by
  obtain ⟨hne, -⟩ := of_mem_valueTokens htoken
  obtain ⟨o, ho, -⟩ := Text.exists_isField_of_mem_fields htoken
  rw [h.drop_colon, Option.isSome_iff_ne_none, Ne, Text.find?_eq_none_iff hne, not_not]
  exact (ho.isInfix.trans (List.drop_suffix o rest).isInfix).trans (List.suffix_cons ':' rest).isInfix

/-- A declaration mentions its property, and then each token of its value. -/
theorem keys_declarationSpots (h : Declares s lead name gap rest) (hs : ';' ∉ s)
    (hcustom : ¬ "--".toList <+: name) :
    (declarationSpots s).map Spot.key = Text.lower name ::
      (Text.fields isValueSeparator rest).map fun token => Text.lower name ++ "::" ++ Text.lower token := by
  have htokens : valueTokens (Text.strip rest) = Text.fields isValueSeparator rest :=
    Text.fields_strip (fun _ => isValueSeparator_of_isBlank) rest
  rw [declarationSpots, h.parse?_eq hs]
  simp only [if_neg (mt isCustom_iff.mp hcustom), htokens, List.map_cons, List.map_filterMap, propertySpot]
  -- Each token is found, so none is left out.
  congr 1
  refine (List.filterMap_congr fun token htoken => ?_).trans (congrFun List.filterMap_eq_map _)
  obtain ⟨i, hi⟩ := Option.isSome_iff_exists.mp (h.isSome_find? htoken)
  simp only [valueSpot?, hi]
  rfl

end Declares

/-- What is not written as a declaration, or is one of a custom property, mentions nothing. -/
theorem declarationSpots_eq_nil {s : Text}
    (h : ¬ ∃ lead name gap rest, Declares s lead name gap rest ∧ ¬ "--".toList <+: name) :
    declarationSpots s = [] := by
  unfold declarationSpots
  split
  · rfl
  · rename_i d hd
    obtain ⟨lead, gap, rest, hdeclares, -, -⟩ := exists_of_parse? hd
    rw [if_pos]
    rw [isCustom_iff]
    by_contra hcustom
    exact h ⟨lead, d.name, gap, rest, hdeclares, hcustom⟩

theorem scan_eq_flatMap (text : Text) (index : Index) :
    scan text index =
      (placedSegments text).flatMap fun p => scanSegment index p.line p.depth p.segment := by
  rw [scan_eq_mentions, mentions, List.filterMap_flatMap]
  simp only [scanSegment_eq]

/-- **No flagged part of a declaration is lost.** A scan reports segment by segment. A segment inside a block
that is written as a declaration reports the flagged ones among its property and, for each maximal run of the
text behind the colon, the property with that value; every run is found, and so is the colon. Any other segment
inside a block reports nothing, at-rules and the starts of blocks apart. -/
theorem scan_declarations (text : Text) (index : Index) :
    scan text index =
      ((placedSegments text).flatMap fun p => scanSegment index p.line p.depth p.segment) ∧
    ∀ p ∈ placedSegments text, p.IsBody →
      (∀ lead name gap rest, Declares p.segment.text lead name gap rest → ¬ "--".toList <+: name →
        ∃ runs, Text.Runs isValueSeparator rest runs ∧
          (scanSegment index p.line p.depth p.segment).map Finding.key =
            (Text.lower name :: runs.map fun run =>
              Text.lower name ++ "::" ++ Text.lower run.2).filter index.markup.flags ∧
          (∀ run ∈ runs, (Text.find? run.2
            (p.segment.text.drop (lead.length + name.length + gap.length))).isSome) ∧
          Text.find? ":" (p.segment.text.drop (lead.length + name.length)) = some gap.length) ∧
      ((¬ ∃ lead name gap rest,
          Declares p.segment.text lead name gap rest ∧ ¬ "--".toList <+: name) →
        scanSegment index p.line p.depth p.segment = []) := by
  refine ⟨scan_eq_flatMap text index, fun p hp hbody => ⟨?_, fun hnone => ?_⟩⟩
  · intro lead name gap rest hdeclares hcustom
    obtain ⟨-, masked, -, -, hseg⟩ := exists_of_mem_placedLines hp
    have hsemi : ';' ∉ p.segment.text := fun hm => absurd (free_of_mem_segments hseg _ hm) (by decide)
    have hfields := Text.map_snd_placedFields isValueSeparator 0 rest
    refine ⟨_, Text.runs_placedFields isValueSeparator rest, ?_, fun run hrun => ?_,
      hdeclares.find?_colon⟩
    · rw [keys_scanSegment, hbody.spots_eq, hdeclares.keys_declarationSpots hsemi hcustom, ← hfields,
        List.map_map]
      rfl
    · exact hdeclares.isSome_find? (hfields ▸ List.mem_map_of_mem hrun)
  · rw [scanSegment_eq, Placed.mentions, hbody.spots_eq, declarationSpots_eq_nil hnone]
    rfl

/-- A value with a token twice, and a custom property behind it. -/
theorem scan_declarations_margin :
    let text : Text := "a\x7bMargin : auto,(0 AUTO);--x:auto\x7d"
    let index : Index := { markup := [
      ("margin::auto", { id := "auto", name := [], status := .limited }),
      ("--x", { id := "x", name := [], status := .limited })] }
    let p : Placed := ⟨0, 1, ⟨2, "Margin : auto,(0 AUTO)", some ';'⟩⟩
    let q : Placed := ⟨0, 1, ⟨25, "--x:auto", some '}'⟩⟩
    (p ∈ placedSegments text ∧ p.IsBody ∧ Declares p.segment.text [] "Margin" " " " auto,(0 AUTO)" ∧
      ¬ "--".toList <+: "Margin".toList ∧
      (∃ runs, Text.Runs isValueSeparator " auto,(0 AUTO)" runs ∧
        (scanSegment index p.line p.depth p.segment).map Finding.key =
          (Text.lower "Margin" :: runs.map fun run =>
            Text.lower "Margin" ++ "::" ++ Text.lower run.2).filter index.markup.flags) ∧
      (scanSegment index p.line p.depth p.segment).map Finding.key = ["margin::auto", "margin::auto"]) ∧
    q ∈ placedSegments text ∧ q.IsBody ∧
      (¬ ∃ lead name gap rest, Declares q.segment.text lead name gap rest ∧ ¬ "--".toList <+: name) ∧
      scanSegment index q.line q.depth q.segment = [] := by
  intro text index p q
  have hp : p ∈ placedSegments text := List.mem_of_getElem? (i := 1) rfl
  have hq : q ∈ placedSegments text := List.mem_of_getElem? (i := 2) rfl
  have hpbody : p.IsBody := ⟨by decide, by decide, by decide +kernel⟩
  have hqbody : q.IsBody := ⟨by decide, by decide, by decide +kernel⟩
  have hdeclares : Declares p.segment.text [] "Margin" " " " auto,(0 AUTO)" := {
    text_eq := by decide
    lead_blank := fun c hc => absurd hc List.not_mem_nil
    name_ne_nil := by decide
    name_chars := Text.forall_mem_of_all (by decide +kernel)
    gap_blank := Text.forall_mem_of_all (by decide +kernel)
    rest_filled := ⟨'a', by decide, by decide +kernel⟩ }
  have hplain : ¬ "--".toList <+: "Margin".toList := by decide
  have hcustom : ¬ ∃ lead name gap rest,
      Declares q.segment.text lead name gap rest ∧ ¬ "--".toList <+: name := by
    rintro ⟨lead, name, gap, rest, h, hname⟩
    have hread := h.parse?_eq (by decide)
    have hparts : Declaration.parse? q.segment.text = some ⟨0, "--x", 3, "auto"⟩ := by decide +kernel
    have hx : "--x".toList = name := congrArg Declaration.name (Option.some.inj (hparts.symm.trans hread))
    exact hname (hx ▸ by decide)
  obtain ⟨runs, hruns, hkeys, -⟩ :=
    ((scan_declarations text index).2 p hp hpbody).1 [] "Margin" " " " auto,(0 AUTO)" hdeclares hplain
  exact ⟨⟨hp, hpbody, hdeclares, hplain, ⟨runs, hruns, hkeys⟩, by decide +kernel⟩,
    hq, hqbody, hcustom, ((scan_declarations text index).2 q hq hqbody).2 hcustom⟩

end WebBaseline.Stylesheet
