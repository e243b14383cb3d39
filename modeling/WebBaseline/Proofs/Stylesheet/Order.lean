import WebBaseline.Proofs.Stylesheet.Value
import WebBaseline.Proofs.Text.Position

/-! Findings in the order of the text.

Segments follow one another on a line, and lines follow one another (`pairwise_placedSegments`). So only what
one segment mentions can be out of order, and there only the tokens of a value: a token is looked for from the
colon on, and may be found before its own place. If it is found as a whole token, that is an equal one further
left, which was mentioned before (`Spot.Displaced`). `scan_ordered` says so for findings: each starts behind
all that were reported before it, or is one of them, or covers no whole token. -/
namespace WebBaseline.Stylesheet

/-! ### Where an item of a list comes from -/

section Lists

variable {α β : Type} {l : List α} {before behind : List β} {x : β}

theorem exists_of_filterMap_eq {f : α → Option β} (h : l.filterMap f = before ++ x :: behind) :
    ∃ front a rest, l = front ++ a :: rest ∧ f a = some x ∧ front.filterMap f = before := by
  obtain ⟨front, rest, rfl, hbefore, hrest⟩ := List.filterMap_eq_append_iff.mp h
  obtain ⟨skipped, a, tail, rfl, hskipped, ha, -⟩ := List.filterMap_eq_cons_iff.mp hrest
  refine ⟨front ++ skipped, a, tail, by rw [List.append_assoc], ha, ?_⟩
  rw [List.filterMap_append, hbefore, List.filterMap_eq_nil_iff.mpr hskipped, List.append_nil]

theorem exists_of_flatMap_eq {f : α → List β} (h : l.flatMap f = before ++ x :: behind) :
    ∃ front a rest left right, l = front ++ a :: rest ∧ f a = left ++ x :: right ∧
      front.flatMap f ++ left = before := by
  induction l generalizing before with
  | nil => simp at h
  | cons b l ih =>
    rw [List.flatMap_cons, List.append_eq_append_iff] at h
    rcases h with ⟨more, rfl, hmore⟩ | ⟨more, hb, hmore⟩
    · obtain ⟨front, a, rest, left, right, rfl, ha, rfl⟩ := ih hmore
      exact ⟨b :: front, a, rest, left, right, rfl, ha, by simp⟩
    · cases more with
      | nil =>
        obtain ⟨front, a, rest, left, right, rfl, ha, hnil⟩ := @ih [] hmore.symm
        refine ⟨b :: front, a, rest, left, right, rfl, ha, ?_⟩
        rw [List.flatMap_cons, List.append_assoc, hnil, List.append_nil, hb, List.append_nil]
      | cons y more =>
        obtain ⟨rfl, -⟩ := List.cons.inj hmore
        exact ⟨[], b, l, before, more, rfl, hb, rfl⟩

end Lists

/-! ### Segments in order -/

/-- The segment ends before the other one starts. -/
def Placed.Before (p q : Placed) : Prop :=
  p.line < q.line ∨ p.line = q.line ∧ p.segment.start + p.segment.text.length ≤ q.segment.start

theorem pairwise_segments (start : Nat) (s : Text) :
    (segments start s).Pairwise fun a b => a.start + a.text.length ≤ b.start := by
  induction s using Text.pieceInduction isTerminator generalizing start with
  | last s hs =>
    rw [segments_free hs]
    exact List.pairwise_singleton ..
  | cut a c s ha hc ih =>
    rw [segments_piece ha hc]
    refine List.pairwise_cons.mpr ⟨fun seg hseg => ?_, ih _⟩
    obtain ⟨o, hstart, -⟩ := prefix_of_mem_segments hseg
    simp only
    omega

theorem pairwise_placed (line depth : Nat) {segs : List Segment}
    (h : segs.Pairwise fun a b => a.start + a.text.length ≤ b.start) :
    (placed line depth segs).Pairwise Placed.Before := by
  induction segs generalizing depth with
  | nil => exact .nil
  | cons seg rest ih =>
    obtain ⟨hseg, hrest⟩ := List.pairwise_cons.mp h
    refine List.pairwise_cons.mpr ⟨fun q hq => ?_, ih _ hrest⟩
    obtain ⟨hline, hmem⟩ := of_mem_placed hq
    exact .inr ⟨hline.symm, hseg _ hmem⟩

theorem pairwise_placedLines (line depth : Nat) (ls : List Text) :
    (placedLines line depth ls).Pairwise Placed.Before := by
  induction ls generalizing line depth with
  | nil => exact .nil
  | cons s rest ih =>
    refine List.pairwise_append.mpr ⟨pairwise_placed line depth (pairwise_segments 0 s), ih .., ?_⟩
    intro p hp q hq
    obtain ⟨hline, -⟩ := of_mem_placed hp
    obtain ⟨i, -, hbelow, -⟩ := exists_of_mem_placedLines hq
    left
    omega

theorem pairwise_placedSegments (text : Text) : (placedSegments text).Pairwise Placed.Before :=
  pairwise_placedLines 0 0 _

/-! ### Spots in order -/

theorem pairwise_atRuleSpots (R : Spot → Spot → Prop) (s rest : Text) : (atRuleSpots s rest).Pairwise R := by
  simp only [atRuleSpots]
  split
  · exact .nil
  · exact List.pairwise_singleton ..

theorem pairwise_pseudoSpots (s : Text) : (pseudoSpots s).Pairwise fun x y => x.start < y.start := by
  refine List.pairwise_map.mpr ((Text.Matches.pairwise_all pseudo? s).imp_of_mem fun hm _ hlater => ?_)
  have hproper := (fits_pseudoSpots (List.mem_map_of_mem hm)).proper
  exact Nat.lt_of_lt_of_le hproper hlater

section Values

variable {s token : Text} {d : Declaration} {x : Spot}

/-- A token is found at its own place or before it. -/
theorem start_le_of_isRun (hx : valueSpot? s d token = some x) {o : Nat}
    (h : Text.IsRun isValueSeparator (s.drop (d.colon + 1)) o token) : x.start ≤ d.colon + 1 + o := by
  obtain ⟨i, hi, rfl⟩ := Option.map_eq_some_iff.mp hx
  refine Nat.le_of_not_lt fun hlt => Text.not_prefix_of_find? hi (j := o + 1) (by simp only at hlt; omega) ?_
  have hhere := h.here
  rw [List.drop_drop, Nat.add_assoc] at hhere
  rwa [List.drop_drop, Nat.add_comm o 1]

/-- What is found as a whole token is one of the tokens. -/
theorem exists_isRun_of_hasToken (htoken : token ∈ valueTokens d.value) (hx : valueSpot? s d token = some x)
    (h : d.HasToken s x.start (x.start + token.length)) :
    ∃ k, x.start = d.colon + 1 + k ∧ Text.IsRun isValueSeparator (s.drop (d.colon + 1)) k token := by
  obtain ⟨hne, hfree⟩ := of_mem_valueTokens htoken
  obtain ⟨k, hk, hfield⟩ := h
  obtain ⟨i, hi, rfl⟩ := Option.map_eq_some_iff.mp hx
  have hhere := Text.prefix_of_find? hi
  simp only at hk hfield
  rw [List.drop_drop, hk] at hhere
  rw [hk, Nat.add_assoc, Nat.add_sub_cancel_left] at hfield
  exact ⟨k, hk, hne, hfree, by rwa [List.drop_drop], hfield⟩

/-- The spot is one of a value token that was found elsewhere: where no whole token is, or where an equal one
is that has its spot among those `before`. -/
def Spot.Displaced (s : Text) (before : List Spot) (x : Spot) : Prop :=
  ∃ d token, Declaration.parse? s = some d ∧ token ∈ valueTokens d.value ∧
    valueSpot? s d token = some x ∧
    (¬ d.HasToken s x.start (x.start + token.length) ∨
      x ∈ before ∧ 2 ≤ (valueTokens d.value).count token)

theorem ordered_valueSpots (hd : Declaration.parse? s = some d) (hs : ∀ c ∈ s, isTerminator c = false)
    {before behind : List Spot}
    (h : (valueTokens d.value).filterMap (valueSpot? s d) = before ++ x :: behind) :
    (∀ y ∈ before, y.start < x.start) ∨ x.Displaced s before := by
  have hruns := Text.runs_placedFields isValueSeparator (s.drop (d.colon + 1))
  have htokens := Text.map_snd_placedFields isValueSeparator 0 (s.drop (d.colon + 1))
  rw [← valueTokens_of_parse? hd hs] at htokens
  generalize Text.placedFields isValueSeparator 0 (s.drop (d.colon + 1)) = runs at hruns htokens
  rw [← htokens, List.filterMap_map] at h
  obtain ⟨front, ⟨o, token⟩, rest, rfl, hx, rfl⟩ := exists_of_filterMap_eq h
  have hmem : token ∈ valueTokens d.value := by simp [← htokens]
  by_cases hwhole : d.HasToken s x.start (x.start + token.length)
  · obtain ⟨k, hk, hrun⟩ := exists_isRun_of_hasToken hmem hx hwhole
    by_cases hko : k < o
    · -- The token was found where an equal one is, further left.
      have hfront := hruns.mem_front hrun hko
      have hcount : 0 < (front.map Prod.snd).count token :=
        List.count_pos_iff.mpr (List.mem_map_of_mem hfront)
      refine .inr ⟨d, token, hd, hmem, hx, .inr ⟨List.mem_filterMap.mpr ⟨(k, token), hfront, hx⟩, ?_⟩⟩
      rw [← htokens, List.map_append, List.map_cons, List.count_append, List.count_cons_self]
      omega
    · -- The tokens before stand further left, and none is found behind its own place.
      refine .inl fun y hy => ?_
      obtain ⟨⟨o', token'⟩, hfront, hy⟩ := List.mem_filterMap.mp hy
      have hrun' := (hruns.complete o' token').mp (List.mem_append_left _ hfront)
      have hle := start_le_of_isRun hy hrun'
      have hlt : o' < o := hruns.lt_of_mem_front hfront
      omega
  · exact .inr ⟨d, token, hd, hmem, hx, .inl hwhole⟩

theorem ordered_declarationSpots (hs : ∀ c ∈ s, isTerminator c = false) {before behind : List Spot}
    (h : declarationSpots s = before ++ x :: behind) :
    (∀ y ∈ before, y.start < x.start) ∨ x.Displaced s before := by
  unfold declarationSpots at h
  split at h
  · simp at h
  · rename_i d hd
    split at h
    · simp at h
    · cases before with
      | nil => exact .inl fun y hy => absurd hy List.not_mem_nil
      | cons y before =>
        obtain ⟨rfl, hvalues⟩ := List.cons.inj h
        rcases ordered_valueSpots hd hs hvalues with hlt | ⟨d, token, hd, htoken, hx, hcase⟩
        · refine .inl (List.forall_mem_cons.mpr ⟨?_, hlt⟩)
          -- The property stands before the colon, and no token is looked for there.
          obtain ⟨lead, gap, rest, hdeclares, -, hcolon⟩ := exists_of_parse? hd
          have hname := List.length_pos_iff.mpr hdeclares.name_ne_nil
          have hmem : x ∈ (valueTokens d.value).filterMap (valueSpot? s d) := by simp [hvalues]
          obtain ⟨token, -, hx⟩ := List.mem_filterMap.mp hmem
          obtain ⟨i, -, rfl⟩ := Option.map_eq_some_iff.mp hx
          simp only [propertySpot]
          omega
        · exact .inr ⟨d, token, hd, htoken, hx, hcase.imp_right (.imp_left (List.mem_cons_of_mem _))⟩

end Values

theorem start_lt_of_pairwise {before behind : List Spot} {x : Spot}
    (h : (before ++ x :: behind).Pairwise fun x y => x.start < y.start) : ∀ y ∈ before, y.start < x.start :=
  fun y hy => (List.pairwise_append.mp h).2.2 y hy x (List.mem_cons_self ..)

/-- The spots of a segment are in order, but for tokens of values that were found elsewhere. -/
theorem Placed.ordered_spots {p : Placed} {x : Spot} (hs : ∀ c ∈ p.segment.text, isTerminator c = false)
    {before behind : List Spot} (h : p.spots = before ++ x :: behind) :
    (∀ y ∈ before, y.start < x.start) ∨ ¬ p.IsSelector ∧ x.Displaced p.segment.text before := by
  unfold Placed.spots at h
  split at h
  · simp at h
  · left
    exact start_lt_of_pairwise (h ▸ pairwise_atRuleSpots ..)
  · split at h
    · left
      exact start_lt_of_pairwise (h ▸ pairwise_pseudoSpots _)
    · rename_i hselector
      have hblock : ¬ p.IsSelector := by simpa [IsSelector] using hselector
      exact (ordered_declarationSpots hs h).imp_right fun hfound => ⟨hblock, hfound⟩

/-! ### Findings in order -/

/-- What a segment mentions starts inside of it. -/
theorem Placed.exists_of_mem_mentions {p : Placed} {m : Mention} (h : m ∈ p.mentions) :
    ∃ o < p.segment.text.length, m.range.start = ⟨p.line, p.segment.start + o⟩ := by
  obtain ⟨spot, hspot, rfl⟩ := List.mem_map.mp h
  have hfits := Placed.fits_spots hspot
  exact ⟨spot.start, Nat.lt_of_lt_of_le hfits.proper hfits.inside, rfl⟩

theorem Placed.Before.start_lt {p q : Placed} (h : p.Before q) {m n : Mention} (hm : m ∈ p.mentions)
    (hn : n ∈ q.mentions) : m.range.start < n.range.start := by
  obtain ⟨o, ho, hmstart⟩ := Placed.exists_of_mem_mentions hm
  obtain ⟨o', -, hnstart⟩ := Placed.exists_of_mem_mentions hn
  rw [hmstart, hnstart, Position.lt_iff]
  simp only [Placed.Before] at h ⊢
  omega

/-- **Findings are reported in the order of the text.** Each starts behind all that are reported before it, but
for two kinds of value tokens: one that occurs again in its value, where a finding for an equal token is
reported once more, and one whose letters are found where no whole token is. -/
theorem scan_ordered (text : Text) (index : Index) (before behind : List Finding) (g : Finding)
    (h : scan text index = before ++ g :: behind) :
    (∀ f ∈ before, f.range.start < g.range.start) ∨
      ∃ p d token start, ReportsToken text g p d token start ∧
        g.key = Text.lower d.name ++ "::" ++ Text.lower token ∧
        (¬ d.HasToken p.segment.text start (start + token.length) ∨
          g ∈ before ∧ 2 ≤ (valueTokens d.value).count token) := by
  rw [scan_eq_mentions] at h
  obtain ⟨front, m, rest, hmentions, hg, rfl⟩ := exists_of_filterMap_eq h
  obtain ⟨earlier, p, later, left, right, hplaced, hp, rfl⟩ := exists_of_flatMap_eq hmentions
  obtain ⟨spots, tail, hspots, rfl, htail⟩ := List.map_eq_append_iff.mp hp
  obtain ⟨x, behind', rfl, rfl, -⟩ := List.map_eq_cons_iff.mp htail
  have hmem : p ∈ placedSegments text := by simp [hplaced]
  obtain ⟨-, masked, -, -, hseg⟩ := exists_of_mem_placedLines hmem
  have hbefore := pairwise_placedSegments text
  rw [hplaced, List.pairwise_append] at hbefore
  rcases Placed.ordered_spots (free_of_mem_segments hseg) hspots with
    hlt | ⟨hblock, d, token, hd, htoken, hx, hcase⟩
  · left
    intro f hf
    obtain ⟨n, hn, hf⟩ := List.mem_filterMap.mp hf
    rw [Mention.range_of_finding? hf, Mention.range_of_finding? hg]
    rcases List.mem_append.mp hn with hn | hn
    · obtain ⟨q, hq, hn⟩ := List.mem_flatMap.mp hn
      refine (hbefore.2.2 q hq p (List.mem_cons_self ..)).start_lt hn ?_
      exact List.mem_map_of_mem (by simp [hspots])
    · obtain ⟨y, hy, rfl⟩ := List.mem_map.mp hn
      exact .inr ⟨rfl, Nat.add_lt_add_left (hlt y hy) _⟩
  · right
    refine ⟨p, d, token, x.start, reportsToken_of_finding? hmem hblock hd htoken hx hg, ?_, ?_⟩
    · obtain ⟨i, -, rfl⟩ := Option.map_eq_some_iff.mp hx
      exact Mention.key_of_finding? hg
    · refine hcase.imp_right fun ⟨hfound, hcount⟩ => ⟨List.mem_filterMap.mpr ⟨_, ?_, hg⟩, hcount⟩
      exact List.mem_append_right _ (List.mem_map_of_mem hfound)

/-- A token that stands first and last in its value is reported twice at its first place. -/
theorem scan_ordered_margin :
    let text : Text := "a\x7bmargin: auto 0 auto\x7d"
    let index : Index := { markup := [
      ("margin::auto", { id := "auto", name := [], status := .limited }),
      ("margin::0", { id := "zero", name := [], status := .limited })] }
    let auto : Finding := ⟨Range.onLine 0 10 14, .limited, "margin: auto", "margin::auto"⟩
    let zero : Finding := ⟨Range.onLine 0 15 16, .limited, "margin: 0", "margin::0"⟩
    scan text index = [auto, zero] ++ auto :: [] ∧
      ¬ (∀ f ∈ [auto, zero], f.range.start < auto.range.start) ∧
      ∃ p d token start, ReportsToken text auto p d token start ∧
        auto.key = Text.lower d.name ++ "::" ++ Text.lower token ∧
        (¬ d.HasToken p.segment.text start (start + token.length) ∨
          auto ∈ [auto, zero] ∧ 2 ≤ (valueTokens d.value).count token) := by
  intro text index auto zero
  have hscan : scan text index = [auto, zero] ++ auto :: [] := by decide +kernel
  have hbehind : ¬ ∀ f ∈ [auto, zero], f.range.start < auto.range.start := by
    intro hall
    have hself := hall auto (List.mem_cons_self ..)
    rw [Position.lt_iff] at hself
    omega
  exact ⟨hscan, hbehind, (scan_ordered text index [auto, zero] [] auto hscan).resolve_left hbehind⟩

/-- So start positions may go back. -/
theorem scan_goes_back :
    let text : Text := "a\x7bmargin: auto 0 auto\x7d"
    let index : Index := { markup := [
      ("margin::auto", { id := "auto", name := [], status := .limited }),
      ("margin::0", { id := "zero", name := [], status := .limited })] }
    ¬ (scan text index).Pairwise fun f g => f.range.start ≤ g.range.start := by
  intro text index hordered
  have hscan : scan text index = [⟨Range.onLine 0 10 14, .limited, "margin: auto", "margin::auto"⟩,
      ⟨Range.onLine 0 15 16, .limited, "margin: 0", "margin::0"⟩,
      ⟨Range.onLine 0 10 14, .limited, "margin: auto", "margin::auto"⟩] := by decide +kernel
  rw [hscan, List.pairwise_cons, List.pairwise_cons] at hordered
  have hback := hordered.2.1 _ (List.mem_cons_self ..)
  simp [Position.le_iff, Range.onLine] at hback

end WebBaseline.Stylesheet
