import WebBaseline.Proofs.Stylesheet.Excerpt
import WebBaseline.Proofs.Text.Field

/-! Where the tokens of a value are reported.

A value is cut into tokens, but a token is then looked for as a run of letters, from the colon on. The search
can end before the token: at the colon, if the token starts with one, or inside a longer token that has the
same letters. `scan_value_token` says when a finding covers a whole token behind the colon: if the letters do
not stand at the colon, and the first token that has them is the token itself. Then the finding covers the
first such token, and in every case it starts no later. -/
namespace WebBaseline.Stylesheet

/-! ### Values of declarations -/

/-- A segment ends before the first terminator. -/
theorem free_of_mem_segments {start : Nat} {s : Text} {seg : Segment} (h : seg ∈ segments start s) :
    ∀ x ∈ seg.text, isTerminator x = false := by
  induction s using Text.pieceInduction isTerminator generalizing start with
  | last s hs =>
    rw [segments_free hs] at h
    rwa [List.mem_singleton.mp h]
  | cut a c s ha hc ih =>
    rw [segments_piece ha hc] at h
    rcases List.mem_cons.mp h with rfl | h
    · exact ha
    · exact ih h

/-- The value is what stands behind the colon, up to a semicolon and without blanks around it. -/
theorem drop_colon_of_parse? {s : Text} {d : Declaration} (h : Declaration.parse? s = some d) :
    s.drop d.colon = ':' :: s.drop (d.colon + 1) ∧
      d.value = Text.strip ((s.drop (d.colon + 1)).takeWhile (· != ';')) := by
  simp only [Declaration.parse?] at h
  split at h
  · rename_i behind hrest
    split at h
    · cases h
    · cases h
      have hsuffix : ((s.dropWhile Text.isBlank).dropWhile Text.isNameChar).dropWhile Text.isBlank <:+ s :=
        (List.dropWhile_suffix _).trans ((List.dropWhile_suffix _).trans (List.dropWhile_suffix _))
      have hcolon := (List.suffix_iff_eq_drop.mp hsuffix).symm.trans hrest
      have hbehind := congrArg List.tail hcolon
      rw [List.tail_drop, List.tail_cons] at hbehind
      rw [hbehind]
      exact ⟨hcolon, rfl⟩
  · cases h

theorem isValueSeparator_of_isBlank {c : Char} (h : Text.isBlank c = true) : isValueSeparator c = true := by
  simp [isValueSeparator, h]

/-- The tokens of the value are the fields of what stands behind the colon. -/
theorem valueTokens_of_parse? {s : Text} {d : Declaration} (h : Declaration.parse? s = some d)
    (hs : ∀ x ∈ s, isTerminator x = false) :
    valueTokens d.value = Text.fields isValueSeparator (s.drop (d.colon + 1)) := by
  have hsemi : ∀ x ∈ s.drop (d.colon + 1), (x != ';') = true := fun x hx => by
    have hterm := hs x (List.mem_of_mem_drop hx)
    simp only [isTerminator, Bool.or_eq_false_iff, beq_eq_false_iff_ne] at hterm
    simpa using hterm.2
  rw [valueTokens, (drop_colon_of_parse? h).2, List.takeWhile_eq_self_iff.mpr hsemi,
    Text.fields_strip fun _ => isValueSeparator_of_isBlank]

theorem of_mem_valueTokens {value token : Text} (h : token ∈ valueTokens value) :
    token ≠ [] ∧ ∀ c ∈ token, isValueSeparator c = false :=
  ⟨by simpa using (List.mem_filter.mp h).2, Text.free_of_mem_splitBy (List.mem_filter.mp h).1⟩

theorem isTrimmed_of_mem_valueTokens {value token : Text} (h : token ∈ valueTokens value) : Text.IsTrimmed token := by
  refine Text.isTrimmed_of_forall fun c hc => ?_
  have hfree := (of_mem_valueTokens h).2 c hc
  rw [Bool.eq_false_iff] at hfree ⊢
  exact fun hblank => hfree (isValueSeparator_of_isBlank hblank)

/-! ### Keys of values -/

/-- A text of characters that are no colons has none in lower case. -/
theorem colon_not_mem_lower {p : Char → Bool} (hp : p ':' = false) {s : Text}
    (hs : ∀ c ∈ s, p c = true) : ':' ∉ Text.lower s := by
  intro hmem
  have hcolon := hs _ (Text.mem_of_mem_lower (by decide +kernel) hmem)
  rw [hp] at hcolon
  cases hcolon

/-- The spots whose key is a property with a value are those of value tokens. -/
theorem exists_token_of_key {p : Placed} {spot : Spot} (hspot : spot ∈ p.spots) {name value : Text}
    (hname : name ≠ []) (hcolon : ':' ∉ name) (hkey : spot.key = name ++ "::" ++ value) :
    ∃ d token, ¬ p.IsSelector ∧ Declaration.parse? p.segment.text = some d ∧
      token ∈ valueTokens d.value ∧ valueSpot? p.segment.text d token = some spot ∧
      name = Text.lower d.name ∧ value = Text.lower token := by
  have hmem : ':' ∈ spot.key := by simp [hkey]
  unfold Placed.spots at hspot
  split at hspot
  · cases hspot
  · simp only [atRuleSpots] at hspot
    split at hspot
    · cases hspot
    · rw [List.mem_singleton.mp hspot] at hmem
      have hrule : ':' ∈ Text.lower _ := (List.mem_cons.mp hmem).resolve_left (by decide)
      exact absurd hrule (colon_not_mem_lower (p := isRuleChar) (by decide) fun c => List.mem_takeWhile_imp)
  · split at hspot
    · obtain ⟨m, hm, rfl⟩ := List.mem_map.mp hspot
      obtain ⟨before, rest, -, -, hr⟩ := Text.Matches.exists_of_mem_all hm
      obtain ⟨c, name, rfl⟩ := List.exists_cons_of_ne_nil hname
      rcases (chars_of_pseudo? hr).1 with hcolons | hcolons <;>
      · simp only [hcolons] at hkey
        exact absurd (List.head_eq_of_cons_eq hkey ▸ List.mem_cons_self ..) hcolon
    · rename_i hselector
      unfold declarationSpots at hspot
      split at hspot
      · cases hspot
      · rename_i d hd
        have hfree := colon_not_mem_lower (by decide) (isNameChar_of_parse? hd)
        split at hspot
        · cases hspot
        · rcases List.mem_cons.mp hspot with rfl | hspot
          · exact absurd hmem hfree
          · obtain ⟨token, htoken, hvalue⟩ := List.mem_filterMap.mp hspot
            obtain ⟨i, -, rfl⟩ := Option.map_eq_some_iff.mp hvalue
            refine ⟨d, token, by simpa [Placed.IsSelector] using hselector, hd, htoken, hvalue, ?_⟩
            simp only [List.append_assoc] at hkey
            have hcut := Text.eq_of_piece_eq (p := (· == ':')) (c := ':') (d := ':')
              (fun x hx => beq_eq_false_iff_ne.mpr fun he => hcolon (he ▸ hx))
              (fun x hx => beq_eq_false_iff_ne.mpr fun he => hfree (he ▸ hx)) rfl rfl hkey.symm
            exact ⟨hcut.1, List.tail_eq_of_cons_eq hcut.2.2⟩

/-! ### The search for a token -/

/-- The stretch of the segment `s` stands behind the colon and is one whole token there. -/
def Declaration.HasToken (d : Declaration) (s : Text) (start stop : Nat) : Prop :=
  ∃ o, start = d.colon + 1 + o ∧
    Text.IsField isValueSeparator (s.drop (d.colon + 1)) o (stop - (d.colon + 1))

/-- A finding covers the first place, from the colon on, that has the letters of a token. -/
structure ReportsToken (text : Text) (f : Finding) (p : Placed) (d : Declaration) (token : Text)
    (start : Nat) : Prop where
  segment : p ∈ placedSegments text
  block : ¬ p.IsSelector
  declaration : Declaration.parse? p.segment.text = some d
  mem_tokens : token ∈ valueTokens d.value
  range : f.range =
    Range.onLine p.line (p.segment.start + start) (p.segment.start + start + token.length)
  here : token <+: p.segment.text.drop start
  from_colon : d.colon ≤ start
  first : ∀ o, d.colon ≤ o → o < start → ¬ token <+: p.segment.text.drop o

variable {s behind token : Text} {d : Declaration} {i : Nat}

/-- Behind the colon, the search goes on in what stands there. -/
theorem find?_behind (h : ¬ token <+: ':' :: behind) :
    Text.find? token (':' :: behind) = (Text.find? token behind).map (· + 1) := by
  rw [Text.find?, if_neg fun hstart => h (Text.startsWith_eq_true_iff.mp hstart)]

/-- The search ends at a whole token if the letters do not stand at the colon and the first token that has
them is the token itself. -/
theorem hasToken_iff (hd : Declaration.parse? s = some d) (hs : ∀ x ∈ s, isTerminator x = false)
    (htoken : token ∈ valueTokens d.value) (hi : Text.find? token (s.drop d.colon) = some i) :
    d.HasToken s (d.colon + i) (d.colon + i + token.length) ↔
      ¬ token <+: s.drop d.colon ∧ (valueTokens d.value).find? (fun t => token <:+: t) = some token := by
  obtain ⟨hne, hfree⟩ := of_mem_valueTokens htoken
  rw [Declaration.HasToken, valueTokens_of_parse? hd hs]
  rw [(drop_colon_of_parse? hd).1] at hi ⊢
  generalize s.drop (d.colon + 1) = behind at hi ⊢
  by_cases hcolon : token <+: ':' :: behind
  · -- The search ends at the colon, and so not behind it.
    have hzero := Text.find?_of_startsWith (Text.startsWith_eq_true_iff.mpr hcolon)
    obtain rfl : 0 = i := Option.some.inj (hzero.symm.trans hi)
    simp only [hcolon, not_true_eq_false, false_and, iff_false, not_exists]
    intro o ho
    omega
  · rw [find?_behind hcolon] at hi
    obtain ⟨k, hk, rfl⟩ := Option.map_eq_some_iff.mp hi
    rw [← Text.isField_iff_of_find? hfree hne hk]
    have hstop : d.colon + (k + 1) + token.length - (d.colon + 1) = k + token.length := by omega
    simp only [hcolon, not_false_eq_true, true_and, hstop]
    constructor
    · rintro ⟨o, ho, hfield⟩
      obtain rfl : o = k := by omega
      exact hfield
    · intro hfield
      exact ⟨k, by omega, hfield⟩

/-- Each token stands somewhere behind the colon. -/
theorem exists_hasToken (hd : Declaration.parse? s = some d) (hs : ∀ x ∈ s, isTerminator x = false)
    (htoken : token ∈ valueTokens d.value) :
    ∃ o, token <+: s.drop o ∧ d.HasToken s o (o + token.length) := by
  rw [valueTokens_of_parse? hd hs] at htoken
  obtain ⟨k, hk, hfield⟩ := Text.exists_isField_of_mem_fields htoken
  refine ⟨d.colon + 1 + k, by rwa [← List.drop_drop], k, rfl, ?_⟩
  rwa [Nat.add_assoc, Nat.add_sub_cancel_left]

/-- A finding for a token covers what the search for the token ends at. -/
theorem reportsToken_of_finding? {text : Text} {table : Table Entry} {f : Finding} {p : Placed} {spot : Spot}
    (hp : p ∈ placedSegments text) (hblock : ¬ p.IsSelector)
    (hd : Declaration.parse? p.segment.text = some d) (htoken : token ∈ valueTokens d.value)
    (hspot : valueSpot? p.segment.text d token = some spot)
    (hf : (spot.mention p.line p.segment.start).finding? table = some f) :
    ReportsToken text f p d token spot.start := by
  obtain ⟨i, hi, rfl⟩ := Option.map_eq_some_iff.mp hspot
  refine {
    segment := hp
    block := hblock
    declaration := hd
    mem_tokens := htoken
    range := ?_
    here := ?_
    from_colon := Nat.le_add_right ..
    first := ?_ }
  · rw [Mention.range_of_finding? hf]
    simp only [Spot.mention, Nat.add_assoc]
  · rw [← List.drop_drop]
    exact Text.prefix_of_find? hi
  · intro o ho hlt
    have hnone := Text.not_prefix_of_find? hi (j := o - d.colon) (by simp only at hlt; omega)
    rwa [List.drop_drop, Nat.add_sub_cancel' ho] at hnone

/-- **Where the tokens of values are reported.** A finding whose key is a property with a value comes from a
token of a declaration, and covers the first place with its letters from the colon on. That is a whole token
just if the letters do not stand at the colon and no token before the first equal one has them. -/
theorem scan_value_token (text : Text) (index : Index) (f : Finding) (hf : f ∈ scan text index)
    (name value : Text) (hname : name ≠ []) (hcolon : ':' ∉ name) (hkey : f.key = name ++ "::" ++ value) :
    ∃ p d token start, ReportsToken text f p d token start ∧
      name = Text.lower d.name ∧ value = Text.lower token ∧
      (d.HasToken p.segment.text start (start + token.length) ↔
        ¬ token <+: p.segment.text.drop d.colon ∧
          (valueTokens d.value).find? (fun t => token <:+: t) = some token) ∧
      ∃ o ≥ start, token <+: p.segment.text.drop o ∧ d.HasToken p.segment.text o (o + token.length) := by
  rw [scan_eq_mentions] at hf
  obtain ⟨m, hm, hf⟩ := List.mem_filterMap.mp hf
  obtain ⟨p, hp, hm⟩ := List.mem_flatMap.mp hm
  obtain ⟨spot, hspot, rfl⟩ := List.mem_map.mp hm
  rw [Mention.key_of_finding? hf] at hkey
  obtain ⟨d, token, hblock, hd, htoken, hvalue, hproperty, hlower⟩ :=
    exists_token_of_key hspot hname hcolon hkey
  have hreports := reportsToken_of_finding? hp hblock hd htoken hvalue hf
  obtain ⟨i, hi, rfl⟩ := Option.map_eq_some_iff.mp hvalue
  obtain ⟨-, masked, -, -, hseg⟩ := exists_of_mem_placedLines hp
  have hs := free_of_mem_segments hseg
  refine ⟨p, d, token, d.colon + i, hreports, hproperty, hlower, hasToken_iff hd hs htoken hi, ?_⟩
  obtain ⟨o, ho, hfield⟩ := exists_hasToken hd hs htoken
  obtain ⟨k, hk, -⟩ := id hfield
  exact ⟨o, Nat.le_of_not_lt fun hlt => hreports.first o (by omega) hlt ho, ho, hfield⟩

/-- A token in capitals, behind one that has its letters in lower case. -/
theorem scan_value_token_all :
    let text : Text := "a\x7btransition: my-all ALL\x7d"
    let index : Index :=
      { markup := [("transition::all", { id := "all", name := [], status := .limited })] }
    let f : Finding := ⟨Range.onLine 0 21 24, .limited, "transition: ALL", "transition::all"⟩
    let name : Text := "transition"
    f ∈ scan text index ∧ name ≠ [] ∧ ':' ∉ name ∧ f.key = name ++ "::" ++ "all".toList ∧
    ∃ p d token start, ReportsToken text f p d token start ∧
      name = Text.lower d.name ∧ "all".toList = Text.lower token ∧
      (d.HasToken p.segment.text start (start + token.length) ↔
        ¬ token <+: p.segment.text.drop d.colon ∧
          (valueTokens d.value).find? (fun t => token <:+: t) = some token) ∧
      ∃ o ≥ start, token <+: p.segment.text.drop o ∧
        d.HasToken p.segment.text o (o + token.length) := by
  intro text index f name
  have hf : f ∈ scan text index := by decide +kernel
  have hname : name ≠ [] := by decide
  have hcolon : ':' ∉ name := by decide
  exact ⟨hf, hname, hcolon, rfl, scan_value_token text index f hf name "all" hname hcolon rfl⟩

/-- A token is reported inside a longer one that stands before it, or at the colon. -/
theorem value_off_token :
    let inner : Text := "a\x7btransition: my-all all\x7d"
    let colons : Text := "a\x7bp:::\x7d"
    let index : Index := { markup := [
      ("transition::all", { id := "all", name := [], status := .limited }),
      ("p::::", { id := "p", name := [], status := .limited })] }
    scan inner index = [⟨Range.onLine 0 17 20, .limited, "transition: all", "transition::all"⟩] ∧
    inner.slice 14 20 = "my-all".toList ∧ isValueSeparator '-' = false ∧
    scan colons index = [⟨Range.onLine 0 3 5, .limited, "p: ::", "p::::"⟩] ∧
    Declaration.parse? "p:::" = some ⟨0, "p", 1, "::"⟩ := by
  decide +kernel

end WebBaseline.Stylesheet
