import Mathlib.Data.List.TakeWhile
import WebBaseline.Proofs.Stylesheet.Comment
import WebBaseline.Proofs.Stylesheet.Segment
import WebBaseline.Proofs.Text.Name

/-! Names where a style sheet has them.

An at-rule before its prelude, a pseudo selector behind the name of an element, and a declaration in a
block: each is written around a name in lower case, and mentions that name at its place. -/
namespace WebBaseline.Stylesheet

open Text (IsName IsLowName)

/-! ### One line without comments -/

theorem maskLine_of_not_mem {s : Text} (h : '/' ∉ s) : (maskLine false s).1 = s := by
  induction s with
  | nil => rfl
  | cons c s ih =>
    have hc : c ≠ '/' := fun he => h (he ▸ List.mem_cons_self ..)
    rw [maskLine_outside fun _ he _ => hc he, ih fun hm => h (List.mem_cons_of_mem c hm)]

theorem mentions_line {s : Text} (hbreak : '\n' ∉ s) (hslash : '/' ∉ s) :
    mentions s = lineMentions 0 0 0 s := by
  show linesMentions 0 0 (maskLines false (Text.lines s)) = _
  rw [Text.lines_free hbreak, maskLines_cons, maskLine_of_not_mem hslash, linesMentions_cons]
  exact List.append_nil _

/-- What a style sheet mentions on its first line is reported there. -/
theorem exists_finding_mention {text : Text} {column : Nat} {spot : Spot}
    (h : spot.mention 0 column ∈ mentions text) {index : Index} {e : Entry}
    (he : index.markup.get? spot.key = some e) (hw : e.status ≠ .widely) :
    ∃ f ∈ scan text index, f.key = spot.key ∧ f.status = e.status ∧
      f.range = Range.onLine 0 (column + spot.start) (column + spot.stop) := by
  obtain ⟨f, hf, hfinding⟩ := Mention.exists_finding? (m := spot.mention 0 column) he hw
  rw [scan_eq_mentions]
  exact ⟨f, List.mem_filterMap.mpr ⟨_, h, hf⟩, hfinding⟩

/-- A character that ends neither a segment nor a line and opens no comment. -/
def isInert (c : Char) : Bool :=
  !isTerminator c && c != '\n' && c != '/'

theorem of_inert {s : Text} (h : s.all isInert = true) :
    '\n' ∉ s ∧ '/' ∉ s ∧ ∀ c ∈ s, isTerminator c = false := by
  rw [List.all_eq_true] at h
  refine ⟨fun hm => absurd (h _ hm) (by decide), fun hm => absurd (h _ hm) (by decide), ?_⟩
  intro c hc
  have := h c hc
  simp only [isInert, Bool.and_eq_true, Bool.not_eq_true'] at this
  exact this.1.1

/-- What the characters of a name are to a scanner. -/
structure Ordinary (c : Char) : Prop where
  inert : isInert c = true
  rule : isRuleChar c = true
  pseudo : isPseudoChar c = true
  property : Text.isNameChar c = true
  value : (c != ';') = true
  token : isValueSeparator c = false

theorem ordinary_of_isName {s : Text} (h : IsName s) {c : Char} (hc : c ∈ s) : Ordinary c := by
  obtain ⟨inert, rule, pseudo, property, value, token⟩ := h.forall_mem
    (p := fun c => isInert c = true ∧ isRuleChar c = true ∧ isPseudoChar c = true ∧
      Text.isNameChar c = true ∧ (c != ';') = true ∧ isValueSeparator c = false) (by decide +kernel) c hc
  exact ⟨inert, rule, pseudo, property, value, token⟩

theorem inert_of_isName {s : Text} (h : IsName s) : s.all isInert = true :=
  List.all_eq_true.mpr fun _ hc => (ordinary_of_isName h hc).inert

/-- A rule with an empty block mentions what stands before the block. -/
theorem mem_mentions_of_prelude {a : Text} (ha : a.all isInert = true) {spot : Spot}
    (h : spot ∈ Placed.spots ⟨0, 0, ⟨0, a, some '{'⟩⟩) :
    spot.mention 0 0 ∈ mentions (a ++ ['{', '}']) := by
  obtain ⟨hbreak, hslash, hfree⟩ := of_inert ha
  rw [mentions_line (by simp [hbreak]) (by simp [hslash]), lineMentions_piece hfree rfl]
  exact List.mem_append_left _ (List.mem_map_of_mem h)

/-- A rule mentions what stands in its block. -/
theorem mem_mentions_of_block {b : Text} (hb : b.all isInert = true) {spot : Spot}
    (h : spot ∈ Placed.spots ⟨0, 1, ⟨3, b, some ';'⟩⟩) :
    spot.mention 0 3 ∈ mentions (['a', ' '] ++ '{' :: (b ++ [';', ' ', '}'])) := by
  obtain ⟨hbreak, hslash, hfree⟩ := of_inert hb
  rw [mentions_line (by simp [hbreak]) (by simp [hslash]), lineMentions_piece (by simp [isTerminator]) rfl,
    lineMentions_piece hfree rfl]
  exact List.mem_append_right _ (List.mem_append_left _ (List.mem_map_of_mem h))

/-! ### At-rules and pseudo selectors -/

theorem mem_mentions_atRule {x : Text} (hx : IsLowName x) :
    Spot.mention 0 0 ⟨'@' :: x, 0, x.length + 1, '@' :: x⟩ ∈
      mentions ('@' :: (x ++ [' ', 'y', ' ']) ++ ['{', '}']) := by
  have hrule : ∀ c ∈ x, isRuleChar c = true := fun _ hc => (ordinary_of_isName hx.name hc).rule
  have hname : (x ++ [' ', 'y', ' ']).takeWhile isRuleChar = x := Text.takeWhile_run hrule rfl _
  apply mem_mentions_of_prelude
  · rw [List.all_cons, List.all_append, inert_of_isName hx.name]
    rfl
  · show _ ∈ atRuleSpots _ (x ++ [' ', 'y', ' '])
    simp [atRuleSpots, hname, hx.name.ne_nil, hx.lower_eq]

/-- A pseudo selector is read up to the end of its name. -/
theorem pseudo?_of_isName {x : Text} (hx : IsName x) {colons : Text}
    (hcolons : colons = [':'] ∨ colons = [':', ':']) :
    pseudo? (colons ++ (x ++ [' '])) = some (colons.length + x.length, colons, x) := by
  have hchars : ∀ c ∈ x, isPseudoChar c = true := fun _ hc => (ordinary_of_isName hx hc).pseudo
  have hname : (x ++ [' ']).takeWhile isPseudoChar = x := Text.takeWhile_run hchars rfl _
  have hne := hx.ne_nil
  rcases hcolons with rfl | rfl
  · rw [List.singleton_append, pseudo?]
    · simp [hname, hne]
    · -- A second colon would belong to the name.
      exact hx.append_ne_cons rfl [' ']
  · simp [pseudo?, hname, hne]

theorem mem_mentions_pseudo {x : Text} (hx : IsLowName x) {colons : Text}
    (hcolons : colons = [':'] ∨ colons = [':', ':']) :
    Spot.mention 0 0 ⟨colons ++ x, 1, 1 + (colons.length + x.length), colons ++ x⟩ ∈
      mentions ('a' :: (colons ++ (x ++ [' '])) ++ ['{', '}']) := by
  have hread := pseudo?_of_isName hx.name hcolons
  have hne : colons ++ (x ++ [' ']) ≠ [] := by simp
  apply mem_mentions_of_prelude
  · have hinert : colons.all isInert = true := by
      rcases hcolons with rfl | rfl <;> decide
    rw [List.all_cons, List.all_append, List.all_append, hinert, inert_of_isName hx.name]
    rfl
  · show _ ∈ pseudoSpots _
    rw [pseudoSpots, Text.Matches.all, Text.Matches.allFrom_of_none rfl,
      Text.Matches.allFrom_of_some hne hread, List.map_cons, hx.lower_eq]
    exact List.mem_cons_self ..

/-! ### Declarations -/

/-- The text of a declaration in a block. -/
def written (p v : Text) : Text :=
  ' ' :: (p ++ ':' :: ' ' :: v)

theorem parse?_written {p v : Text} (hp : IsName p) (hv : IsName v) :
    Declaration.parse? (written p v) = some ⟨1, p, 1 + p.length, v⟩ := by
  have hbody : (written p v).dropWhile Text.isBlank = p ++ ':' :: ' ' :: v :=
    hp.stripLeft_append _
  have hchars : ∀ c ∈ p, Text.isNameChar c = true := fun _ hc => (ordinary_of_isName hp hc).property
  have hname : (p ++ ':' :: ' ' :: v).takeWhile Text.isNameChar = p :=
    Text.takeWhile_run hchars rfl _
  have hrest : (p ++ ':' :: ' ' :: v).dropWhile Text.isNameChar = ':' :: ' ' :: v :=
    Text.dropWhile_run hchars rfl _
  have hsemi : ∀ c ∈ ' ' :: v, (c != ';') = true :=
    List.forall_mem_cons.mpr ⟨by decide, fun _ hc => (ordinary_of_isName hv hc).value⟩
  have hvalue : (' ' :: v).takeWhile (· != ';') = ' ' :: v := List.takeWhile_eq_self_iff.mpr hsemi
  have hbehind : (' ' :: v).dropWhile (· != ';') = [] := List.dropWhile_eq_nil_iff.mpr hsemi
  have hstrip : Text.strip (' ' :: v) = v := hv.strip_eq
  have hcolon : (':' :: ' ' :: v).dropWhile Text.isBlank = ':' :: ' ' :: v := rfl
  simp only [Declaration.parse?, hbody, hname, hrest, hcolon, hvalue, hbehind, hstrip]
  simp [written, hp.ne_nil, hv.ne_nil]
  omega

theorem valueTokens_of_isName {v : Text} (hv : IsName v) : valueTokens v = [v] := by
  have hfree : ∀ c ∈ v, isValueSeparator c = false := fun _ hc => (ordinary_of_isName hv hc).token
  rw [valueTokens, Text.fields, Text.splitBy_free hfree]
  simp [hv.ne_nil]

theorem declarationSpots_written {p v : Text} (hp : IsLowName p) (hv : IsLowName v) :
    declarationSpots (written p v) =
      [⟨p, 1, 1 + p.length, p⟩,
        ⟨p ++ "::" ++ v, 1 + p.length + 2, 1 + p.length + 2 + v.length, p ++ ": " ++ v⟩] := by
  have hdrop : (written p v).drop (1 + p.length) = ':' :: ' ' :: v := by
    rw [written, Nat.add_comm, List.drop_succ_cons, List.drop_left]
  have hfind : Text.find? v (':' :: ' ' :: v) = some 2 := by
    rw [Text.find?, hv.name.not_startsWith rfl, Text.find?, hv.name.not_startsWith rfl,
      Text.find?_of_startsWith (Text.startsWith_iff.mpr ⟨[], (List.append_nil v).symm⟩)]
    rfl
  have hcustom : Text.startsWith p "--" = false := by
    apply Bool.eq_false_iff.mpr
    intro hstart
    obtain ⟨rest, hrest⟩ := Text.startsWith_iff.mp hstart
    exact hp.name.append_ne_cons (c := '-') rfl [] ('-' :: rest) ((List.append_nil p).trans hrest)
  simp only [declarationSpots, parse?_written hp.name hv.name, hp.lower_eq, hcustom,
    valueTokens_of_isName hv.name, List.filterMap_cons, valueSpot?, hdrop, hfind]
  simp [propertySpot, hp.lower_eq, hv.lower_eq]

/-- A block with one declaration mentions what the declaration does. -/
theorem mem_mentions_written {p v : Text} (hp : IsName p) (hv : IsName v) {spot : Spot}
    (h : spot ∈ declarationSpots (written p v)) :
    spot.mention 0 3 ∈ mentions (['a', ' '] ++ '{' :: (written p v ++ [';', ' ', '}'])) := by
  apply mem_mentions_of_block
  · rw [written, List.all_cons, List.all_append, List.all_cons, List.all_cons, inert_of_isName hp,
      inert_of_isName hv]
    rfl
  · have hlead : Text.stripLeft (written p v) = p ++ ':' :: ' ' :: v := hp.stripLeft_append _
    unfold Placed.spots
    simp only [hlead]
    split
    · rename_i hnil
      exact absurd hnil (by simp)
    · rename_i hat
      exact absurd hat (hp.append_ne_cons rfl _ _)
    · exact h

theorem mem_mentions_property {p v : Text} (hp : IsLowName p) (hv : IsLowName v) :
    Spot.mention 0 3 ⟨p, 1, 1 + p.length, p⟩ ∈
      mentions (['a', ' '] ++ '{' :: (written p v ++ [';', ' ', '}'])) := by
  apply mem_mentions_written hp.name hv.name
  rw [declarationSpots_written hp hv]
  exact List.mem_cons_self ..

theorem mem_mentions_value {p v : Text} (hp : IsLowName p) (hv : IsLowName v) :
    Spot.mention 0 3 ⟨p ++ "::" ++ v, 1 + p.length + 2, 1 + p.length + 2 + v.length,
        p ++ ": " ++ v⟩ ∈
      mentions (['a', ' '] ++ '{' :: (written p v ++ [';', ' ', '}'])) := by
  apply mem_mentions_written hp.name hv.name
  rw [declarationSpots_written hp hv]
  exact List.mem_cons_of_mem _ (List.mem_cons_self ..)

end WebBaseline.Stylesheet
