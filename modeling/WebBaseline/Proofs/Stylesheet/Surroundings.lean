import WebBaseline.Proofs.Stylesheet.Value

/-! What stands around a construct on its line.

An at-rule starts a segment, and so does a declaration. What stands before them on the line is a blank, a
terminator or the end of a comment, and what stands behind a property is a blank, the colon or the start of a
comment. A pseudo selector may stand anywhere in a selector. `Stands` says so for each construct, and
`exists_stands` that every finding is one of these, unless it is for a value. Nothing of this changes where a
segment is put back in its line (`Stands.move`) or where the comments of the line are put back
(`exists_of_maskLine`). -/
namespace WebBaseline.Stylesheet

/-- What may stand next to a construct that is written apart: a blank, a terminator or the slash of a comment. -/
def isEdge (c : Char) : Bool :=
  Text.isBlank c || isTerminator c || c == '/'

/-- A construct, written `word`, stands between two texts and is looked up under a key. -/
inductive Stands (before word rest : Text) : (key : Text) → Prop where
  | atRule {name : Text} (hword : word = '@' :: name) (hne : name ≠ []) (hname : ∀ c ∈ name, isRuleChar c = true)
    (hbefore : ∀ c ∈ before.getLast?, isEdge c = true) : Stands before word rest ('@' :: Text.lower name)
  | pseudo {colons name : Text} (hword : word = colons ++ name) (hcolons : colons = ":".toList ∨ colons = "::".toList)
    (hne : name ≠ []) (hname : ∀ c ∈ name, isPseudoChar c = true) :
    Stands before word rest (colons ++ Text.lower name)
  | property (hne : word ≠ []) (hname : ∀ c ∈ word, Text.isNameChar c = true)
    (hbefore : ∀ c ∈ before.getLast?, isEdge c = true) (hrest : ∀ c ∈ rest.head?, isEdge c = true ∨ c = ':') :
    Stands before word rest (Text.lower word)

namespace Stands

variable {before word rest key : Text}

theorem word_ne_nil (h : Stands before word rest key) : word ≠ [] := by
  cases h with
  | atRule hword => simp [hword]
  | pseudo hword hcolons hne => simp [hword, hne]
  | property hne => exact hne

theorem visible (h : Stands before word rest key) : ' ' ∉ word := by
  intro hspace
  cases h with
  | atRule hword _ hname =>
    rw [hword] at hspace
    exact absurd (hname _ ((List.mem_cons.mp hspace).resolve_left (by decide))) (by decide)
  | pseudo hword hcolons _ hname =>
    rw [hword] at hspace
    rcases List.mem_append.mp hspace with hspace | hspace
    · rcases hcolons with h | h <;> rw [h] at hspace <;> exact absurd hspace (by decide)
    · exact absurd (hname _ hspace) (by decide)
  | property _ hname => exact absurd (hname _ hspace) (by decide +kernel)

theorem lower_word (h : Stands before word rest key) : Text.lower word = key := by
  cases h with
  | @atRule name hword _ hname =>
    have hsigma : 'Σ' ∉ name := fun hm => absurd (hname _ hm) (by decide)
    rw [hword]
    exact Text.lower_append (a := ['@']) (by decide) hsigma
  | @pseudo colons name hword hcolons _ hname =>
    have hsigma : 'Σ' ∉ name := fun hm => absurd (hname _ hm) (by decide)
    rw [hword]
    rcases hcolons with h | h <;> rw [h, Text.lower_append (by decide) hsigma] <;> rfl
  | property => rfl

/-- Only a pseudo selector is looked up under a key that starts with a colon, and so written. -/
theorem head?_eq (h : Stands before word rest key) (hkey : key.head? = some ':') : word.head? = some ':' := by
  cases h with
  | atRule => cases hkey
  | pseudo hword hcolons =>
    rw [hword]
    rcases hcolons with h | h <;> rw [h] <;> rfl
  | property hne hname =>
    have hmem : ':' ∈ Text.lower word := List.mem_of_mem_head? hkey
    exact absurd hmem (colon_not_mem_lower (by decide +kernel) hname)

theorem edge_before (h : Stands before word rest key) (hkey : key.head? ≠ some ':') :
    ∀ c ∈ before.getLast?, isEdge c = true := by
  cases h with
  | atRule _ _ _ hbefore => exact hbefore
  | pseudo hword hcolons =>
    refine absurd ?_ hkey
    rcases hcolons with h | h <;> rw [h] <;> rfl
  | property _ _ hbefore => exact hbefore

theorem edge_behind (h : Stands before word rest key) (hkey : key.head? ≠ some ':' ∧ key.head? ≠ some '@') :
    ∀ c ∈ rest.head?, isEdge c = true ∨ c = ':' := by
  cases h with
  | atRule => exact absurd rfl hkey.2
  | pseudo hword hcolons =>
    refine absurd ?_ hkey.1
    rcases hcolons with h | h <;> rw [h] <;> rfl
  | property _ _ _ hrest => exact hrest

/-- A construct stands between other texts if they are no less apart from it. -/
theorem move {before' rest' : Text} (h : Stands before word rest key)
    (hbefore : (∀ c ∈ before.getLast?, isEdge c = true) → ∀ c ∈ before'.getLast?, isEdge c = true)
    (hrest : (∀ c ∈ rest.head?, isEdge c = true ∨ c = ':') → ∀ c ∈ rest'.head?, isEdge c = true ∨ c = ':') :
    Stands before' word rest' key := by
  cases h with
  | atRule hword hne hname hedge => exact .atRule hword hne hname (hbefore hedge)
  | pseudo hword hcolons hne hname => exact .pseudo hword hcolons hne hname
  | property hne hname hedge hbehind => exact .property hne hname (hbefore hedge) (hrest hbehind)

end Stands

/-! ### In a segment -/

/-- The key of a value: a property, two colons and a token. -/
def IsValueKey (key : Text) : Prop :=
  ∃ name value, name ≠ [] ∧ ':' ∉ name ∧ key = name ++ "::" ++ value

theorem not_isValueKey_of_head? {key : Text} (h : key.head? = some ':') : ¬ IsValueKey key := by
  intro ⟨name, value, hne, hcolon, hkey⟩
  obtain ⟨c, name, rfl⟩ := List.exists_cons_of_ne_nil hne
  rw [hkey] at h
  exact hcolon (Option.some.inj h ▸ List.mem_cons_self ..)

/-- The spot covers `word`, between two parts of the text. -/
structure Spot.Cuts (s : Text) (spot : Spot) (before word rest : Text) : Prop where
  text_eq : s = before ++ (word ++ rest)
  start : spot.start = before.length
  stop : spot.stop = before.length + word.length
  stands : Stands before word rest spot.key

theorem isEdge_of_isBlank {c : Char} (h : Text.isBlank c = true) : isEdge c = true := by
  simp [isEdge, h]

theorem isEdge_of_isTerminator {c : Char} (h : isTerminator c = true) : isEdge c = true := by
  simp [isEdge, h]

theorem cuts_atRuleSpots {s rest : Text} (h : Text.stripLeft s = '@' :: rest) {spot : Spot}
    (hspot : spot ∈ atRuleSpots s rest) : ∃ before word behind, spot.Cuts s before word behind := by
  have hs : s = s.takeWhile Text.isBlank ++ '@' :: rest := by
    rw [← h, Text.stripLeft, List.takeWhile_append_dropWhile]
  have hlen := congrArg List.length hs
  simp only [List.length_append, List.length_cons] at hlen
  simp only [atRuleSpots] at hspot
  split at hspot
  · cases hspot
  · rename_i hne
    rw [List.mem_singleton.mp hspot]
    refine ⟨s.takeWhile Text.isBlank, '@' :: rest.takeWhile isRuleChar, rest.dropWhile isRuleChar, {
      text_eq := by rw [List.cons_append, List.takeWhile_append_dropWhile, ← hs]
      start := by simp only; omega
      stop := by simp only [List.length_cons]; omega
      stands := ?_ }⟩
    exact .atRule rfl (by simpa using hne) (fun c hc => List.mem_takeWhile_imp hc)
      fun c hc => isEdge_of_isBlank (List.mem_takeWhile_imp (List.mem_of_mem_getLast? hc))

theorem cuts_pseudoSpots {s : Text} {spot : Spot} (hspot : spot ∈ pseudoSpots s) :
    ∃ before word behind, spot.Cuts s before word behind := by
  obtain ⟨m, hm, rfl⟩ := List.mem_map.mp hspot
  obtain ⟨before, rest, hs, hstart, hread⟩ := Text.Matches.exists_of_mem_all hm
  obtain ⟨behind, hrest, hlen, -, hname⟩ := exists_of_pseudo? hread
  obtain ⟨hcolons, hchars⟩ := chars_of_pseudo? hread
  refine ⟨before, m.value.1 ++ m.value.2, behind, {
    text_eq := by rw [hs, hrest, List.append_assoc]
    start := hstart
    stop := by simp only [Text.Match.stop, List.length_append]; omega
    stands := .pseudo rfl hcolons hname hchars }⟩

theorem cuts_declarationSpots {s : Text} {spot : Spot} (hspot : spot ∈ declarationSpots s)
    (hkey : ¬ IsValueKey spot.key) : ∃ before word behind, spot.Cuts s before word behind := by
  unfold declarationSpots at hspot
  split at hspot
  · cases hspot
  · rename_i d hd
    obtain ⟨lead, gap, rest, hdeclares, hstart, -⟩ := exists_of_parse? hd
    split at hspot
    · cases hspot
    · rcases List.mem_cons.mp hspot with rfl | hspot
      · refine ⟨lead, d.name, gap ++ ':' :: rest, {
          text_eq := hdeclares.text_eq
          start := hstart.symm
          stop := by simp only [propertySpot]; omega
          stands := .property hdeclares.name_ne_nil hdeclares.name_chars ?_ ?_ }⟩
        · exact fun c hc => isEdge_of_isBlank (hdeclares.lead_blank c (List.mem_of_mem_getLast? hc))
        · intro c hc
          cases gap with
          | nil => exact .inr (Option.some.inj hc).symm
          | cons b gap =>
            have hb := hdeclares.gap_blank b (List.mem_cons_self ..)
            exact .inl (Option.some.inj hc ▸ isEdge_of_isBlank hb)
      · obtain ⟨token, -, hvalue⟩ := List.mem_filterMap.mp hspot
        obtain ⟨i, -, rfl⟩ := Option.map_eq_some_iff.mp hvalue
        refine absurd ⟨Text.lower d.name, Text.lower token, ?_, ?_, rfl⟩ hkey
        · exact fun hnil => hdeclares.name_ne_nil ((Text.lower_eq_nil_iff d.name).mp hnil)
        · exact colon_not_mem_lower (by decide) hdeclares.name_chars

theorem Placed.cuts_spots {p : Placed} {spot : Spot} (hspot : spot ∈ p.spots) (hkey : ¬ IsValueKey spot.key) :
    ∃ before word behind, spot.Cuts p.segment.text before word behind := by
  unfold Placed.spots at hspot
  split at hspot
  · cases hspot
  · rename_i rest h
    exact cuts_atRuleSpots h hspot
  · split at hspot
    · exact cuts_pseudoSpots hspot
    · exact cuts_declarationSpots hspot hkey

/-! ### In a line -/

section Masked

variable {inside : Bool} {raw before before' word rest rest' : Text}

/-- Before what is not masked the raw line has the same character, or the slash that ends a comment. -/
theorem mem_getLast?_of_maskLine (h : (maskLine inside raw).1 = before ++ (word ++ rest))
    (hraw : before' ++ (word ++ rest') = raw) (hlen : before'.length = before.length) (hword : word ≠ [])
    (hvisible : ' ' ∉ word) : ∀ c ∈ before'.getLast?, c ∈ before.getLast? ∨ c = '/' := by
  intro c hc
  obtain ⟨a', rfl⟩ := List.getLast?_eq_some_iff.mp hc
  have hne : before ≠ [] := List.ne_nil_of_length_pos (by rw [← hlen, List.length_append]; exact Nat.succ_pos _)
  obtain ⟨a, x, rfl⟩ := (List.eq_nil_or_concat' before).resolve_left hne
  obtain ⟨d, w, rfl⟩ := List.exists_cons_of_ne_nil hword
  have hlength : a'.length = a.length := by simpa using hlen
  have hx : (maskLine inside raw).1[a.length]? = some x := by simp [h]
  have hd : (maskLine inside raw).1[a.length + 1]? = some d := by simp [h]
  have hc : raw[a.length]? = some c := by simp [← hraw, ← hlength]
  have hnext := getElem?_before_visible hx hd fun he => hvisible (he ▸ List.mem_cons_self ..)
  rw [hc] at hnext
  simpa [eq_comm] using hnext

/-- Behind it the raw line has the same character, or the slash that starts a comment. -/
theorem mem_head?_of_maskLine (h : (maskLine inside raw).1 = before ++ (word ++ rest))
    (hraw : before' ++ (word ++ rest') = raw) (hlen : before'.length = before.length) (hword : word ≠ [])
    (hvisible : ' ' ∉ word) : ∀ c ∈ rest'.head?, c ∈ rest.head? ∨ c = '/' := by
  intro c hc
  obtain ⟨t', rfl⟩ := List.head?_eq_some_iff.mp hc
  have hlength := length_maskLine inside raw
  rw [h, ← hraw] at hlength
  simp only [List.length_append, List.length_cons] at hlength
  obtain ⟨x, t, rfl⟩ := List.exists_cons_of_ne_nil (List.ne_nil_of_length_pos (l := rest) (by omega))
  obtain ⟨w, d, rfl⟩ := (List.eq_nil_or_concat' word).resolve_left hword
  have hd : (maskLine inside raw).1[before.length + w.length]? = some d := by simp [h]
  have hx : (maskLine inside raw).1[before.length + w.length + 1]? = some x := by simp [h, Nat.add_assoc]
  have hc : raw[before.length + w.length + 1]? = some c := by simp [← hraw, ← hlen, Nat.add_assoc]
  have hnext := getElem?_behind_visible hd (fun he => hvisible (by simp [he])) hx
  rw [hc] at hnext
  simpa [eq_comm] using hnext

/-- What is not masked stands in the raw line, too, between texts of the same lengths. What stands next to it
there is the same, or the slash of a comment. -/
theorem exists_of_maskLine (h : (maskLine inside raw).1 = before ++ (word ++ rest)) (hword : word ≠ [])
    (hvisible : ' ' ∉ word) :
    ∃ before' rest', raw = before' ++ (word ++ rest') ∧ before'.length = before.length ∧
      (∀ c ∈ before'.getLast?, c ∈ before.getLast? ∨ c = '/') ∧
      ∀ c ∈ rest'.head?, c ∈ rest.head? ∨ c = '/' := by
  obtain ⟨rest', hrest⟩ : word <+: raw.drop before.length :=
    prefix_of_maskLine (by rw [h, List.drop_left]; exact List.prefix_append ..) hvisible
  have hraw : raw.take before.length ++ (word ++ rest') = raw := by rw [hrest, List.take_append_drop]
  have hlen : (raw.take before.length).length = before.length := by
    have hlength := length_maskLine inside raw
    rw [h, List.length_append] at hlength
    rw [List.length_take]
    omega
  exact ⟨raw.take before.length, rest', hraw.symm, hlen, mem_getLast?_of_maskLine h hraw hlen hword hvisible,
    mem_head?_of_maskLine h hraw hlen hword hvisible⟩

end Masked

/-- **Every finding stands on its line**, unless it is for a value. -/
theorem exists_stands {text : Text} {index : Index} {f : Finding} (hf : f ∈ scan text index)
    (hkey : ¬ IsValueKey f.key) :
    ∃ n line before word rest, (Text.lines text)[n]? = some line ∧ line = before ++ (word ++ rest) ∧
      f.range = Range.onLine n before.length (before.length + word.length) ∧ Stands before word rest f.key := by
  obtain ⟨p, hp, spot, hspot, hfinding⟩ := exists_spot_of_mem_scan hf
  rw [Mention.key_of_finding? hfinding] at hkey ⊢
  obtain ⟨before, word, rest, hcuts⟩ := Placed.cuts_spots hspot hkey
  have hstands := hcuts.stands
  obtain ⟨i, s, hline, hs, hseg⟩ := exists_of_mem_placedLines hp
  obtain ⟨inside, raw, hraw, rfl⟩ := exists_of_getElem?_maskLines hs
  obtain ⟨a, b, hmasked, hstart, ha, hb⟩ := exists_of_mem_segments hseg
  have hsplit : (maskLine inside raw).1 = (a ++ before) ++ (word ++ (rest ++ b)) := by
    rw [hmasked, hcuts.text_eq]
    simp
  obtain ⟨before', rest', rfl, hlength, hbefore, hrest⟩ :=
    exists_of_maskLine hsplit hstands.word_ne_nil hstands.visible
  rw [Nat.zero_add] at hline hstart
  rw [List.length_append] at hlength
  refine ⟨i, _, before', word, rest', hraw, rfl, ?_, hstands.move (fun hedge c hc => ?_) fun hedge c hc => ?_⟩
  · rw [Mention.range_of_finding? hfinding, Spot.mention, hcuts.start, hcuts.stop, hline, hstart, hlength,
      Nat.add_assoc]
  · rcases hbefore c hc with hc | rfl
    · rw [List.getLast?_append, Option.mem_def, Option.or_eq_some_iff] at hc
      rcases hc with hc | ⟨-, hc⟩
      · exact hedge c hc
      · exact isEdge_of_isTerminator (ha c hc)
    · rfl
  · rcases hrest c hc with hc | rfl
    · rw [List.head?_append, Option.mem_def, Option.or_eq_some_iff] at hc
      rcases hc with hc | ⟨-, hc⟩
      · exact hedge c hc
      · exact .inl (isEdge_of_isTerminator (hb c hc))
    · exact .inl rfl

end WebBaseline.Stylesheet
