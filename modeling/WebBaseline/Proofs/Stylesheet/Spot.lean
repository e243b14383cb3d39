import WebBaseline.Proofs.Scan.Mention
import WebBaseline.Proofs.Stylesheet.Declaration
import WebBaseline.Proofs.Text.Search
import WebBaseline.Stylesheet.Scan

/-! What a style sheet mentions.

A style sheet is a run of segments, each on a line and inside a number of open blocks
(`placedSegments`). What a segment mentions depends on its text, its terminator and whether a block is
open, and not on where it stands: `Placed.spots` lists it with columns counted from the segment's start.
`scan_eq_mentions` says that a scan looks up these mentions, one by one and in order, and does nothing
else. -/
namespace WebBaseline.Stylesheet

/-! ### Segments in their places -/

/-- A segment, its line, and the number of blocks that are open before it. -/
structure Placed where
  line : Nat
  depth : Nat
  segment : Segment

/-- Consecutive segments of a line in their places. -/
def placed (line : Nat) : (depth : Nat) → List Segment → List Placed
  | _, [] => []
  | depth, seg :: rest => ⟨line, depth, seg⟩ :: placed line (seg.depthAfter depth) rest

/-- The number of open blocks behind consecutive segments. -/
def depthBehind (depth : Nat) (segs : List Segment) : Nat :=
  segs.foldl (fun depth seg => seg.depthAfter depth) depth

/-- The segments of consecutive masked lines in their places; `line` is the number of the first. -/
def placedLines : (line depth : Nat) → List Text → List Placed
  | _, _, [] => []
  | line, depth, s :: rest =>
    placed line depth (segments 0 s) ++
      placedLines (line + 1) (depthBehind depth (segments 0 s)) rest

/-- The segments of a style sheet in their places. -/
def placedSegments (text : Text) : List Placed :=
  placedLines 0 0 (maskLines false (Text.lines text))

/-! ### Spots of a segment -/

/-- A stretch of a segment that may use a feature, with columns counted from the segment's start. -/
structure Spot where
  key : Text
  start : Nat
  stop : Nat
  fallback : Text

/-- The spot as a mention in a segment that starts at a line and column. -/
def Spot.mention (line column : Nat) (s : Spot) : Mention :=
  ⟨s.key, Range.onLine line (column + s.start) (column + s.stop), s.fallback⟩

/-- The spot of an at-rule; `rest` is what follows the `@` in the segment `s`. -/
def atRuleSpots (s rest : Text) : List Spot :=
  let name := rest.takeWhile isRuleChar
  let start := s.length - (rest.length + 1)
  if name.isEmpty then []
  else [⟨'@' :: Text.lower name, start, start + name.length + 1, '@' :: Text.lower name⟩]

/-- The spots of the pseudo selectors of a segment. -/
def pseudoSpots (s : Text) : List Spot :=
  (Text.Matches.all pseudo? s).map fun m =>
    ⟨m.value.1 ++ Text.lower m.value.2, m.start, m.stop, m.value.1 ++ m.value.2⟩

/-- The spot of the property of a declaration. -/
def propertySpot (d : Declaration) : Spot :=
  ⟨Text.lower d.name, d.start, d.start + d.name.length, d.name⟩

/-- The spot of a value token of a declaration in the segment `s`. -/
def valueSpot? (s : Text) (d : Declaration) (token : Text) : Option Spot :=
  (Text.find? token (s.drop d.colon)).map fun i =>
    ⟨Text.lower d.name ++ "::" ++ Text.lower token, d.colon + i, d.colon + i + token.length,
      d.name ++ ": " ++ token⟩

/-- The spots of a declaration. -/
def declarationSpots (s : Text) : List Spot :=
  match Declaration.parse? s with
  | none => []
  | some d =>
    if (Text.lower d.name).startsWith "--" then []
    else propertySpot d :: (valueTokens d.value).filterMap (valueSpot? s d)

/-- The spots of a segment. -/
def Placed.spots (p : Placed) : List Spot :=
  match Text.stripLeft p.segment.text with
  | [] => []
  | '@' :: rest => atRuleSpots p.segment.text rest
  | _ =>
    if p.segment.terminator = some '{' || p.depth = 0 then pseudoSpots p.segment.text
    else declarationSpots p.segment.text

/-- What a segment mentions, in order. -/
def Placed.mentions (p : Placed) : List Mention :=
  p.spots.map (Spot.mention p.line p.segment.start)

/-- What a style sheet mentions, in order. -/
def mentions (text : Text) : List Mention :=
  (placedSegments text).flatMap Placed.mentions

/-! ### The scan looks up the mentions -/

theorem atRule_eq (index : Index) (line start : Nat) (s rest : Text) :
    atRule index line (start + (s.length - (rest.length + 1))) rest =
      ((atRuleSpots s rest).map (Spot.mention line start)).filterMap
        (Mention.finding? index.markup) := by
  simp only [atRule, atRuleSpots]
  split
  · rfl
  · rw [List.map_singleton, List.filterMap_cons, List.filterMap_nil]
    simp only [Spot.mention, Mention.finding?, Nat.add_assoc]
    split <;> simp [*]

theorem pseudos_eq (index : Index) (line : Nat) (seg : Segment) :
    pseudos index line seg =
      ((pseudoSpots seg.text).map (Spot.mention line seg.start)).filterMap
        (Mention.finding? index.markup) := by
  unfold pseudos pseudoSpots
  rw [List.map_map, List.filterMap_map]
  rfl

theorem valueToken_eq (index : Index) (line : Nat) (seg : Segment) (d : Declaration) (token : Text) :
    valueToken index line seg d token =
      ((valueSpot? seg.text d token).map (Spot.mention line seg.start)).bind
        (Mention.finding? index.markup) := by
  unfold valueToken valueSpot?
  cases Text.find? token (seg.text.drop d.colon) with
  | none => rfl
  | some i => simp [Spot.mention, Mention.finding?, Nat.add_assoc]

theorem declaration_eq (index : Index) (line : Nat) (seg : Segment) :
    declaration index line seg =
      ((declarationSpots seg.text).map (Spot.mention line seg.start)).filterMap
        (Mention.finding? index.markup) := by
  unfold declaration declarationSpots
  cases Declaration.parse? seg.text with
  | none => rfl
  | some d =>
    simp only
    split
    · rfl
    · have property : Finding.of? (index.markup.get? (Text.lower d.name)) (Text.lower d.name)
          (Range.onLine line (seg.start + d.start) (seg.start + d.start + d.name.length)) d.name =
          ((propertySpot d).mention line seg.start).finding? index.markup := by
        simp [propertySpot, Spot.mention, Mention.finding?, Nat.add_assoc]
      rw [List.map_cons, List.filterMap_cons, property, List.map_filterMap, List.filterMap_filterMap]
      simp only [← valueToken_eq]
      cases ((propertySpot d).mention line seg.start).finding? index.markup <;> rfl

theorem scanSegment_eq (index : Index) (line depth : Nat) (seg : Segment) :
    scanSegment index line depth seg =
      (Placed.mentions ⟨line, depth, seg⟩).filterMap (Mention.finding? index.markup) := by
  unfold Placed.mentions Placed.spots
  fun_cases scanSegment index line depth seg with
  | case1 h =>
    simp only [h]
    rfl
  | case2 rest h =>
    simp only [h]
    exact atRule_eq ..
  | case3 hselector hnil hat =>
    simp only [hselector, if_true]
    exact pseudos_eq ..
  | case4 hselector hnil hat =>
    simp only [hselector]
    exact declaration_eq ..

theorem scanSegments_eq (index : Index) (line depth : Nat) (segs : List Segment) :
    scanSegments index line depth segs =
      (((placed line depth segs).flatMap Placed.mentions).filterMap (Mention.finding? index.markup),
        depthBehind depth segs) := by
  induction segs generalizing depth with
  | nil => rfl
  | cons seg rest ih =>
    simp only [scanSegments, ih, scanSegment_eq, placed, List.flatMap_cons, List.filterMap_append]
    rfl

theorem scanLines_eq (index : Index) (line depth : Nat) (ls : List Text) :
    scanLines index line depth ls =
      ((placedLines line depth ls).flatMap Placed.mentions).filterMap
        (Mention.finding? index.markup) := by
  induction ls generalizing line depth with
  | nil => rfl
  | cons s rest ih =>
    simp only [scanLines, scanSegments_eq, ih, placedLines, List.flatMap_append,
      List.filterMap_append]

/-- **A scan looks up what the style sheet mentions.** -/
theorem scan_eq_mentions (text : Text) (index : Index) :
    scan text index = (mentions text).filterMap (Mention.finding? index.markup) :=
  scanLines_eq index 0 0 _

/-- A finding comes from a spot of a segment. -/
theorem exists_spot_of_mem_scan {text : Text} {index : Index} {f : Finding} (h : f ∈ scan text index) :
    ∃ p ∈ placedSegments text, ∃ spot ∈ p.spots,
      (spot.mention p.line p.segment.start).finding? index.markup = some f := by
  rw [scan_eq_mentions] at h
  obtain ⟨m, hm, hf⟩ := List.mem_filterMap.mp h
  obtain ⟨p, hp, hm⟩ := List.mem_flatMap.mp hm
  obtain ⟨spot, hspot, rfl⟩ := List.mem_map.mp hm
  exact ⟨p, hp, spot, hspot, hf⟩

/-! ### How far a spot reaches -/

/-- The spot covers some characters of the segment `s` and can be called something. -/
structure Spot.Fits (s : Text) (spot : Spot) : Prop where
  named : spot.fallback ≠ []
  proper : spot.start < spot.stop
  inside : spot.stop ≤ s.length

theorem fits_atRuleSpots {s rest : Text} (h : Text.stripLeft s = '@' :: rest) {spot : Spot}
    (hspot : spot ∈ atRuleSpots s rest) : spot.Fits s := by
  have hlen : (Text.stripLeft s).length ≤ s.length := (List.dropWhile_suffix _).length_le
  have hname : (rest.takeWhile isRuleChar).length ≤ rest.length :=
    (List.takeWhile_prefix _).length_le
  rw [h, List.length_cons] at hlen
  simp only [atRuleSpots] at hspot
  split at hspot
  · cases hspot
  · rw [List.mem_singleton.mp hspot]
    refine ⟨by simp, ?_, ?_⟩ <;> simp only <;> omega

/-- What a pseudo selector reads behind its colons. -/
theorem exists_of_named (colons : Text) {t : Text} {n : Nat} {value : Text × Text}
    (h : (if colons.isEmpty || (t.takeWhile isPseudoChar).isEmpty then none
      else some (colons.length + (t.takeWhile isPseudoChar).length, colons,
        t.takeWhile isPseudoChar)) = some (n, value)) :
    ∃ rest, colons ++ t = value.1 ++ (value.2 ++ rest) ∧ n = value.1.length + value.2.length ∧
      value.1 ≠ [] ∧ value.2 ≠ [] := by
  split at h
  · cases h
  · rename_i hne
    cases h
    simp only [Bool.or_eq_true, List.isEmpty_iff, not_or] at hne
    exact ⟨t.dropWhile isPseudoChar, by rw [List.takeWhile_append_dropWhile], rfl, hne.1, hne.2⟩

/-- A pseudo selector is its colons and its name, neither of them empty. -/
theorem exists_of_pseudo? {s : Text} {n : Nat} {value : Text × Text}
    (h : pseudo? s = some (n, value)) :
    ∃ rest, s = value.1 ++ (value.2 ++ rest) ∧ n = value.1.length + value.2.length ∧
      value.1 ≠ [] ∧ value.2 ≠ [] := by
  unfold pseudo? at h
  split at h
  · exact exists_of_named "::" h
  · exact exists_of_named ":" h
  · cases h

theorem fits_pseudoSpots {s : Text} {spot : Spot} (hspot : spot ∈ pseudoSpots s) : spot.Fits s := by
  obtain ⟨m, hm, rfl⟩ := List.mem_map.mp hspot
  obtain ⟨before, rest, rfl, hstart, hr⟩ := Text.Matches.exists_of_mem_all hm
  obtain ⟨behind, rfl, hlen, hcolons, hname⟩ := exists_of_pseudo? hr
  have hpos : 0 < m.value.1.length := List.length_pos_iff.mpr hcolons
  refine ⟨by simp [hcolons], ?_, ?_⟩
  · simp only [Text.Match.stop]
    omega
  · simp only [Text.Match.stop, List.length_append]
    omega

theorem fits_declarationSpots {s : Text} {spot : Spot} (hspot : spot ∈ declarationSpots s) :
    spot.Fits s := by
  unfold declarationSpots at hspot
  split at hspot
  · cases hspot
  · rename_i d hd
    obtain ⟨lead, gap, behind, hdeclares, hstart, hcolon⟩ := exists_of_parse? hd
    have hname := hdeclares.name_ne_nil
    have hpos : 0 < d.name.length := List.length_pos_iff.mpr hname
    split at hspot
    · cases hspot
    · rcases List.mem_cons.mp hspot with rfl | hspot
      · refine ⟨hname, by simp only [propertySpot]; omega, ?_⟩
        simp only [propertySpot, hdeclares.text_eq, List.length_append]
        omega
      · obtain ⟨token, htoken, hspot⟩ := List.mem_filterMap.mp hspot
        obtain ⟨i, hi, rfl⟩ := Option.map_eq_some_iff.mp hspot
        obtain ⟨before, rest, hdrop, hlen⟩ := Text.exists_of_find? hi
        have hne : 0 < token.length := by
          simpa [valueTokens, Text.fields, List.length_pos_iff] using (List.mem_filter.mp htoken).2
        have htotal := congrArg List.length hdrop
        simp only [List.length_drop, List.length_append] at htotal
        refine ⟨by simp [hname], by simp only; omega, by simp only; omega⟩

theorem Placed.fits_spots {p : Placed} {spot : Spot} (hspot : spot ∈ p.spots) :
    spot.Fits p.segment.text := by
  unfold Placed.spots at hspot
  split at hspot
  · cases hspot
  · rename_i rest h
    exact fits_atRuleSpots h hspot
  · split at hspot
    · exact fits_pseudoSpots hspot
    · exact fits_declarationSpots hspot

end WebBaseline.Stylesheet
