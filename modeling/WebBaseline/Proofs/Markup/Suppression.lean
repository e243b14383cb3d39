import WebBaseline.Proofs.Markup.Depth
import WebBaseline.Proofs.Markup.Foreign
import WebBaseline.Proofs.Text.Pieces
import WebBaseline.Proofs.Text.Slice
import WebBaseline.Markup.Scan

/-! A scan passes over foreign content exactly.

The scan turns the foreign tags of a document into stretches, and passes over the opening tags that start
in one. The rule behind it is a count: an opening tag is passed over if the foreign tags before it leave
an element open (`depth`). The two agree, since no opening tag starts inside of a foreign tag, or where
one closes an element (`clears_of_mem_tags`). -/
namespace WebBaseline.Markup

/-! ### Foreign stretches tag by tag -/

open ForeignTag (step depth Balanced Settled)

/-- Tags in the order of a text of length `size`. -/
structure InOrder (size : Nat) (ms : List (Text.Match ForeignTag)) : Prop where
  apart : ms.Pairwise fun m n => m.stop ≤ n.start
  filled : ∀ m ∈ ms, m.start < m.stop
  inside : ∀ m ∈ ms, m.stop ≤ size

theorem InOrder.tail {size : Nat} {m : Text.Match ForeignTag} {ms : List (Text.Match ForeignTag)}
    (h : InOrder size (m :: ms)) : InOrder size ms where
  apart := (List.pairwise_cons.mp h.apart).2
  filled := fun n hn => h.filled n (List.mem_cons_of_mem m hn)
  inside := fun n hn => h.inside n (List.mem_cons_of_mem m hn)

theorem InOrder.head {size : Nat} {m : Text.Match ForeignTag} {ms : List (Text.Match ForeignTag)}
    (h : InOrder size (m :: ms)) : ∀ n ∈ ms, m.stop ≤ n.start :=
  (List.pairwise_cons.mp h.apart).1

/-- One tag more: it may end a stretch, it changes the depth, and it may start a stretch. -/
theorem foreignFrom_cons (size d start : Nat) (m : Text.Match ForeignTag)
    (rest : List (Text.Match ForeignTag)) :
    foreignFrom size d start (m :: rest) =
      (if d = 1 ∧ m.value = .closing then [(start, m.start)] else []) ++
        foreignFrom size (step d m.value)
          (if d = 0 ∧ m.value = .opening false then m.stop else start) rest := by
  obtain ⟨s, l, value⟩ := m
  match value, d with
  | .closing, 0 => rfl
  | .closing, 1 => rfl
  | .closing, d + 2 => rfl
  | .opening true, 0 => rfl
  | .opening true, d + 1 => simp [foreignFrom, step]
  | .opening false, 0 => rfl
  | .opening false, d + 1 => simp [foreignFrom, step]

/-- What is open behind a tag that opens no outermost element was open before it. -/
theorem ne_zero_of_step {d : Nat} {tag : ForeignTag} (h : step d tag ≠ 0)
    (hopen : ¬ (d = 0 ∧ tag = .opening false)) : d ≠ 0 := by
  rintro rfl
  match tag with
  | .opening false => exact hopen ⟨rfl, rfl⟩
  | .opening true | .closing => exact h rfl

theorem inside_foreignFrom {size d start : Nat} {ms : List (Text.Match ForeignTag)}
    (h : InOrder size ms) (hstart : d ≠ 0 → start ≤ size ∧ ∀ m ∈ ms, start ≤ m.start) :
    ∀ r ∈ foreignFrom size d start ms, r.1 ≤ r.2 ∧ r.2 ≤ size := by
  induction ms generalizing d start with
  | nil =>
    intro r hr
    match d with
    | 0 => cases hr
    | d + 1 =>
      rw [List.mem_singleton.mp hr]
      exact ⟨(hstart (Nat.succ_ne_zero d)).1, Nat.le_refl size⟩
  | cons m rest ih =>
    have hfilled := h.filled m (List.mem_cons_self ..)
    have hinside := h.inside m (List.mem_cons_self ..)
    rw [foreignFrom_cons, List.forall_mem_append]
    constructor
    · intro r hr
      split at hr
      · rename_i hclose
        rw [List.mem_singleton.mp hr]
        have hle := (hstart (by omega)).2 m (List.mem_cons_self ..)
        exact ⟨hle, by omega⟩
      · cases hr
    · apply ih h.tail
      intro hd
      split
      · exact ⟨hinside, h.head⟩
      · rename_i hopen
        have hd' := ne_zero_of_step hd hopen
        exact ⟨(hstart hd').1, fun n hn => (hstart hd').2 n (List.mem_cons_of_mem m hn)⟩

theorem pairwise_foreignFrom {size d start : Nat} {ms : List (Text.Match ForeignTag)}
    (h : InOrder size ms) : (foreignFrom size d start ms).Pairwise fun r s => r.2 < s.1 := by
  induction ms generalizing d start with
  | nil =>
    match d with
    | 0 => exact .nil
    | d + 1 => exact List.pairwise_singleton ..
  | cons m rest ih =>
    rw [foreignFrom_cons]
    split
    · rename_i hclose
      refine List.pairwise_cons.mpr ⟨fun r hr => ?_, ih h.tail⟩
      -- Nothing is open any more, so the next stretch starts behind a later tag.
      rcases exists_of_mem_foreignFrom hr with ⟨hd, -⟩ | ⟨n, hn, hstop⟩
      · exact absurd (by rw [hclose.1, hclose.2]; rfl) hd
      · have hm := h.filled m (List.mem_cons_self ..)
        have hn' := h.tail.filled n hn
        have hle := h.head n hn
        show m.start < r.1
        omega
    · exact ih h.tail

/-! ### Foreign stretches against the depth -/

/-- The offset `o` is not inside of the tag, and not where it starts if it closes an element. -/
def Clears (o : Nat) (m : Text.Match ForeignTag) : Prop :=
  m.stop ≤ o ∨ o ≤ m.start ∧ (m.value = .closing → o < m.start)

theorem within_append (a b : List (Nat × Nat)) (o : Nat) :
    within (a ++ b) o = (within a o || within b o) :=
  List.any_append

/-- Before all tags that are left, the depth is as it is now. -/
theorem within_foreignFrom_ahead {size d start o : Nat} {ms : List (Text.Match ForeignTag)}
    (h : InOrder size ms) (ho : o < size) (hstart : d ≠ 0 → start ≤ o)
    (hahead : ∀ m ∈ ms, o ≤ m.start ∧ (m.value = .closing → o < m.start)) :
    within (foreignFrom size d start ms) o = true ↔ 0 < d := by
  constructor
  · intro hwithin
    obtain ⟨r, hr, hin⟩ := List.any_eq_true.mp hwithin
    simp only [Bool.and_eq_true, decide_eq_true_eq] at hin
    rcases exists_of_mem_foreignFrom hr with ⟨hd, -⟩ | ⟨m, hm, hstop⟩
    · exact Nat.pos_of_ne_zero hd
    · have hfilled := h.filled m hm
      have hle := (hahead m hm).1
      omega
  · intro hd
    induction ms generalizing d with
    | nil =>
      obtain ⟨d, rfl⟩ := Nat.exists_eq_succ_of_ne_zero (Nat.ne_of_gt hd)
      have hle := hstart (Nat.succ_ne_zero d)
      simp [foreignFrom, within, hle, ho]
    | cons m rest ih =>
      rw [foreignFrom_cons, within_append, Bool.or_eq_true]
      have hle := hstart (by omega)
      by_cases hclose : d = 1 ∧ m.value = .closing
      · left
        have hlt := (hahead m (List.mem_cons_self ..)).2 hclose.2
        simp [if_pos hclose, within, hle, hlt]
      · right
        rw [if_neg fun hopen => absurd hopen.1 (by omega)]
        refine ih h.tail (fun _ => hle) (fun n hn => hahead n (List.mem_cons_of_mem m hn)) ?_
        cases hvalue : m.value with
        | opening selfClosed =>
          cases selfClosed with
          | true => exact hd
          | false => exact Nat.succ_pos d
        | closing =>
          show 0 < d - 1
          have : d ≠ 1 := fun hone => hclose ⟨hone, hvalue⟩
          omega

/-- At an offset that is clear of all tags, the foreign stretches say whether the depth is positive. -/
theorem within_foreignFrom_iff {size d start o : Nat} {ms : List (Text.Match ForeignTag)}
    (h : InOrder size ms) (ho : o < size) (hstart : d ≠ 0 → start ≤ o)
    (hclear : ∀ m ∈ ms, Clears o m) :
    within (foreignFrom size d start ms) o = true ↔
      0 < ((ms.filter (·.start < o)).map (·.value)).foldl step d := by
  induction ms generalizing d start with
  | nil => exact within_foreignFrom_ahead h ho hstart (by simp)
  | cons m rest ih =>
    have hfilled := h.filled m (List.mem_cons_self ..)
    rcases hclear m (List.mem_cons_self ..) with hbehind | hahead
    · have hfilter : (m :: rest).filter (·.start < o) = m :: rest.filter (·.start < o) :=
        List.filter_cons_of_pos (by simp only [decide_eq_true_eq]; omega)
      -- A stretch that the tag ends does not reach to the offset.
      have hout : within (if d = 1 ∧ m.value = .closing then [(start, m.start)] else []) o = false := by
        split
        · simp only [within, List.any_cons, List.any_nil, Bool.or_false, Bool.and_eq_false_iff,
            decide_eq_false_iff_not]
          omega
        · rfl
      rw [hfilter, List.map_cons, List.foldl_cons, foreignFrom_cons, within_append, hout,
        Bool.false_or]
      refine ih h.tail (fun hd => ?_) fun n hn => hclear n (List.mem_cons_of_mem m hn)
      split
      · exact hbehind
      · rename_i hopen
        exact hstart (ne_zero_of_step hd hopen)
    · have hall : ∀ n ∈ m :: rest, o ≤ n.start ∧ (n.value = .closing → o < n.start) := by
        intro n hn
        rcases List.mem_cons.mp hn with rfl | hn
        · exact hahead
        · have := h.head n hn
          omega
      have hnone : (m :: rest).filter (·.start < o) = [] := by
        apply List.filter_eq_nil_iff.mpr
        intro n hn
        have := (hall n hn).1
        simp only [decide_eq_true_eq]
        omega
      rw [hnone]
      exact within_foreignFrom_ahead h ho hstart hall

/-! ### Tags by their text -/

/-- The tags of a masked document that open and close foreign content. -/
def foreignTags (masked : Text) : List (Text.Match ForeignTag) :=
  Text.Matches.all ForeignTag.recognise masked

/-- The text of the attributes of an opening tag: what stands between its name and the closing
bracket. -/
def attributeText (tag : Text) : Text :=
  (tag.dropWhile fun c => !endsName [c]).dropLast

/-- What a foreign tag does, by its text. `selfClosed` looks at the text of the attributes. -/
def ForeignTag.ofText (selfClosed : Text → Bool) (tag : Text) : ForeignTag :=
  if tag.startsWith "</" then .closing else .opening (selfClosed (attributeText tag))

/-- The foreign tags of a masked document that start before the offset `o`. -/
def foreignBefore (selfClosed : Text → Bool) (masked : Text) (o : Nat) : List ForeignTag :=
  ((foreignTags masked).filter (·.start < o)).map fun m =>
    .ofText selfClosed (masked.slice m.start m.stop)

/-- Whether a text ends in a solidus, blanks at its end apart. -/
def endsInSolidus (s : Text) : Bool :=
  (Text.stripRight s).endsWith "/"

namespace ForeignTag.Written

variable {text name attributes : Text} {isEnd : Bool}

theorem ofText_eq (h : Written text isEnd name attributes) :
    ofText endsInSolidus text =
      if isEnd then .closing else .opening (endsInSolidus attributes) := by
  cases isEnd with
  | true =>
    rw [h.text_eq]
    rfl
  | false =>
    obtain ⟨c, s, hcons⟩ := List.exists_cons_of_ne_nil h.named.ne_nil
    have hletter : ∀ c ∈ name, (!endsName [c]) = true := by
      intro c hc
      rw [(h.named.letters c hc).2]
      rfl
    have hstart : text.startsWith "</" = false := by
      have hc : ¬ '/' = c := by
        rintro rfl
        exact absurd (hletter '/' (by simp [hcons])) (by decide)
      rw [h.text_eq, hcons]
      simp [Text.startsWith, Text.dropLead?, hc]
    have hattributes : attributeText text = attributes := by
      obtain ⟨d, u, hdu⟩ : ∃ d u, attributes ++ ['>'] = d :: u :=
        List.exists_cons_of_ne_nil (by simp)
      have hd : (!endsName [d]) = false := by
        have hends := h.ends
        rw [hdu] at hends
        exact congrArg not hends
      have hrun : ∀ c ∈ '<' :: name, (!endsName [c]) = true :=
        List.forall_mem_cons.mpr ⟨rfl, hletter⟩
      calc attributeText text
          = ((('<' :: name) ++ d :: u).dropWhile fun c => !endsName [c]).dropLast := by
            rw [attributeText, h.text_eq, ← hdu]
            rfl
        _ = (attributes ++ ['>']).dropLast := by rw [Text.dropWhile_run hrun hd, hdu]
        _ = attributes := List.dropLast_concat
    simp only [ofText, hstart, hattributes, Bool.false_eq_true, if_false]

/-- A tag has one opening bracket. -/
theorem exists_cons (h : Written text isEnd name attributes) :
    ∃ s, text = '<' :: s ∧ '<' ∉ s := by
  refine ⟨_, h.text_eq, ?_⟩
  have hname : '<' ∉ name := fun hm => (h.named.letters _ hm).1 rfl
  have hattributes : '<' ∉ attributes := fun hm => absurd (h.free _ hm) (by decide)
  cases isEnd <;> simp [hname, hattributes]

end ForeignTag.Written

theorem written_of_mem_foreignTags {masked : Text} {m : Text.Match ForeignTag}
    (hm : m ∈ foreignTags masked) :
    ∃ text isEnd name attributes, ForeignTag.Written text isEnd name attributes ∧
      text <+: masked.drop m.start ∧ m.stop = m.start + text.length ∧
      m.value = if isEnd then .closing else .opening (endsInSolidus attributes) := by
  obtain ⟨before, _, rfl, hstart, hread⟩ := Text.Matches.exists_of_mem_all hm
  obtain ⟨text, rest, isEnd, name, attributes, hwritten, rfl, hlen, hvalue⟩ :=
    ForeignTag.written_of_recognise hread
  refine ⟨text, isEnd, name, attributes, hwritten, ?_, ?_, hvalue⟩
  · rw [hstart, List.drop_left]
    exact List.prefix_append ..
  · rw [Text.Match.stop, hlen]

/-- Foreign tags are what their texts say. -/
theorem foreignBefore_eq (masked : Text) (o : Nat) :
    foreignBefore endsInSolidus masked o =
      ((foreignTags masked).filter (·.start < o)).map (·.value) := by
  apply List.map_congr_left
  intro m hm
  obtain ⟨text, isEnd, name, attributes, hwritten, hhere, hstop, hvalue⟩ :=
    written_of_mem_foreignTags (List.mem_filter.mp hm).1
  rw [hstop, Text.slice_of_prefix hhere, hwritten.ofText_eq, hvalue]

theorem inOrder_foreignTags (masked : Text) : InOrder masked.length (foreignTags masked) := by
  have hplace : ∀ m ∈ foreignTags masked, m.start < m.stop ∧ m.stop ≤ masked.length := by
    intro m hm
    obtain ⟨text, _, _, _, hwritten, hhere, hstop, -⟩ := written_of_mem_foreignTags hm
    have hne : text ≠ [] := by
      rw [hwritten.text_eq]
      exact List.cons_ne_nil _ _
    have hpos := List.length_pos_iff.mpr hne
    have hle := Text.add_length_le_of_prefix hhere hne
    omega
  exact ⟨Text.Matches.pairwise_all _ _, fun m hm => (hplace m hm).1, fun m hm => (hplace m hm).2⟩

/-- An opening tag starts with a bracket and a character of its name. -/
theorem exists_drop_of_mem_tags {masked : Text} {t : Text.Match Tag}
    (ht : t ∈ Text.Matches.all Tag.recognise masked) :
    ∃ c s, masked.drop t.start = '<' :: c :: s ∧ isTagChar c = true := by
  obtain ⟨before, _, rfl, hstart, hread⟩ := Text.Matches.exists_of_mem_all ht
  obtain ⟨behind, hrest, -, hname, -⟩ := Tag.exists_of_recognise hread
  obtain ⟨c, s, hcons⟩ := List.exists_cons_of_ne_nil hname
  refine ⟨c, s ++ t.value.inner ++ '>' :: behind, ?_,
    Tag.isTagChar_of_recognise hread c (by rw [hcons]; exact List.mem_cons_self ..)⟩
  rw [hstart, List.drop_left, hrest, hcons]
  rfl

theorem start_lt_of_mem_tags {masked : Text} {t : Text.Match Tag}
    (ht : t ∈ Text.Matches.all Tag.recognise masked) : t.start < masked.length := by
  obtain ⟨c, s, hdrop, -⟩ := exists_drop_of_mem_tags ht
  have := congrArg List.length hdrop
  simp only [List.length_drop, List.length_cons] at this
  omega

/-- No opening tag starts inside of a foreign tag, or where one closes an element. -/
theorem clears_of_mem_tags {masked : Text} {t : Text.Match Tag} {m : Text.Match ForeignTag}
    (ht : t ∈ Text.Matches.all Tag.recognise masked) (hm : m ∈ foreignTags masked) :
    Clears t.start m := by
  obtain ⟨c, s, hdrop, hc⟩ := exists_drop_of_mem_tags ht
  obtain ⟨text, isEnd, name, attributes, hwritten, hhere, hstop, hvalue⟩ :=
    written_of_mem_foreignTags hm
  by_cases hbehind : m.stop ≤ t.start
  · exact .inl hbehind
  right
  rcases Nat.lt_trichotomy t.start m.start with hlt | heq | hgt
  · exact ⟨Nat.le_of_lt hlt, fun _ => hlt⟩
  · refine ⟨Nat.le_of_eq heq, fun hclosing => ?_⟩
    -- Behind the bracket, one has a character of its name and the other a solidus.
    have hend : isEnd = true := by
      cases isEnd with
      | true => rfl
      | false => simp [hvalue] at hclosing
    rw [← heq, hdrop, hwritten.text_eq, hend] at hhere
    obtain ⟨rest, hrest⟩ := hhere
    have : c = '/' := (List.cons.inj (List.cons.inj hrest).2).1.symm
    rw [this] at hc
    exact absurd hc (by decide)
  · -- The bracket of the opening tag would stand inside of the foreign one.
    exfalso
    obtain ⟨u, htext, hfree⟩ := hwritten.exists_cons
    obtain ⟨k, hk⟩ : ∃ k, t.start = m.start + (k + 1) := ⟨t.start - m.start - 1, by omega⟩
    obtain ⟨rest, hrest⟩ := hhere
    have hbracket : u[k]? = some '<' := by
      calc u[k]? = (text ++ rest)[k + 1]? := by
            rw [List.getElem?_append_left (by omega), htext, List.getElem?_cons_succ]
        _ = (masked.drop t.start)[0]? := by
            rw [hrest, List.getElem?_drop, List.getElem?_drop, hk]
            rfl
        _ = some '<' := by rw [hdrop]; rfl
    exact hfree (List.mem_of_getElem? hbracket)

/-- A tag stands in foreign content exactly if an element is open where it starts. -/
theorem within_foreignRanges_iff {masked : Text} {t : Text.Match Tag}
    (ht : t ∈ Text.Matches.all Tag.recognise masked) :
    within (foreignRanges masked) t.start = true ↔
      0 < depth (foreignBefore endsInSolidus masked t.start) := by
  rw [foreignBefore_eq]
  exact within_foreignFrom_iff (inOrder_foreignTags masked) (start_lt_of_mem_tags ht)
    (fun h => absurd rfl h) fun m hm => clears_of_mem_tags ht hm

/-- **The scan passes over foreign content exactly.** The foreign stretches are listed in order, apart
from each other and inside of the document. A tag is passed over exactly if an element is open where it
starts. So it is looked up behind settled tags only, and is passed over behind every tag that opens an
element and is not closed. -/
theorem scan_outside_foreign (text : Text) :
    let masked := mask text
    let ranges := foreignRanges masked
    let before := foreignBefore endsInSolidus masked
    (ranges.Pairwise fun r s => r.2 < s.1) ∧
    (∀ r ∈ ranges, r.1 ≤ r.2 ∧ r.2 ≤ masked.length) ∧
    (∀ t ∈ Text.Matches.all Tag.recognise masked,
      (within ranges t.start = true ↔ 0 < depth (before t.start)) ∧
      (within ranges t.start = false ↔ Settled (before t.start)) ∧
      ∀ outer inner, before t.start = outer ++ .opening false :: inner →
        (∀ p, Balanced p → ¬ p ++ [.closing] <+: inner) → within ranges t.start = true) ∧
    ∀ index, scan text index =
      ((Text.Matches.all Tag.recognise masked).filter fun t => depth (before t.start) = 0).flatMap
        (tagFindings index text) := by
  intro masked ranges before
  have hwithin : ∀ t ∈ Text.Matches.all Tag.recognise masked,
      (within ranges t.start = true ↔ 0 < depth (before t.start)) :=
    fun t ht => within_foreignRanges_iff ht
  have hout : ∀ t ∈ Text.Matches.all Tag.recognise masked,
      (within ranges t.start = false ↔ depth (before t.start) = 0) := by
    intro t ht
    rw [← Bool.not_eq_true, hwithin t ht, Nat.not_lt, Nat.le_zero]
  refine ⟨pairwise_foreignFrom (inOrder_foreignTags masked),
    inside_foreignFrom (inOrder_foreignTags masked) (fun h => absurd rfl h), fun t ht => ?_,
    fun index => ?_⟩
  · refine ⟨hwithin t ht, (hout t ht).trans ForeignTag.depth_eq_zero_iff, ?_⟩
    intro outer inner hbefore hunclosed
    rw [hwithin t ht, Nat.pos_iff_ne_zero]
    intro hzero
    rw [hbefore, ForeignTag.depth_append] at hzero
    have hleft : inner.foldl step (depth outer + 1) ≤ depth outer :=
      Nat.le_trans (Nat.le_of_eq hzero) (Nat.zero_le _)
    obtain ⟨p, hp, hclose⟩ := ForeignTag.exists_close hleft
    exact hunclosed p hp hclose
  · have hfilter : (Text.Matches.all Tag.recognise masked).filter (!within ranges ·.start) =
        (Text.Matches.all Tag.recognise masked).filter fun t => depth (before t.start) = 0 := by
      apply List.filter_congr
      intro t ht
      rw [Bool.eq_iff_iff, Bool.not_eq_true', hout t ht, decide_eq_true_iff]
    exact congrArg (List.flatMap (tagFindings index text)) hfilter

/-- A tag in an element, one behind it, and one in an element that is not closed. -/
theorem scan_outside_foreign_popover :
    let text : Text := "<svg><p popover><svg/></svg><p popover><math><p popover>"
    let masked := mask text
    let ranges := foreignRanges masked
    let before := foreignBefore endsInSolidus masked
    let index : Index := { markup := [("popover", { id := "popover", name := [], status := .newly })] }
    ranges = [(5, 22), (45, 56)] ∧ (45 ≤ 56 ∧ 56 ≤ masked.length) ∧
      (within ranges 5 = true ↔ 0 < depth (before 5)) ∧
      (within ranges 28 = false ↔ Settled (before 28)) ∧
      within ranges 45 = true ∧
      scan text index = [⟨Range.onLine 0 31 38, .newly, "popover", "popover"⟩] := by
  intro text masked ranges before index
  have hranges : ranges = [(5, 22), (45, 56)] := by decide +kernel
  have htags : Text.Matches.all Tag.recognise masked =
      [⟨0, 5, ⟨"svg", []⟩⟩, ⟨5, 11, ⟨"p", " popover"⟩⟩, ⟨16, 6, ⟨"svg", "/"⟩⟩,
        ⟨28, 11, ⟨"p", " popover"⟩⟩, ⟨39, 6, ⟨"math", []⟩⟩, ⟨45, 11, ⟨"p", " popover"⟩⟩] := by
    rfl
  obtain ⟨-, hinside, htag, -⟩ := scan_outside_foreign text
  have hlast : (45, 56) ∈ ranges := by
    rw [hranges]
    decide
  refine ⟨hranges, hinside (45, 56) hlast, ?_, ?_, ?_, by decide +kernel⟩
  · exact (htag ⟨5, 11, ⟨"p", " popover"⟩⟩ (by rw [htags]; simp)).1
  · exact (htag ⟨28, 11, ⟨"p", " popover"⟩⟩ (by rw [htags]; simp)).2.1
  · refine (htag ⟨45, 11, ⟨"p", " popover"⟩⟩ (by rw [htags]; simp)).2.2
      [.opening false, .opening true, .closing] [] (by decide +kernel) ?_
    intro p _ hclose
    simp at hclose

/-- A tag closes itself although a blank stands behind its solidus. -/
theorem blank_behind_solidus :
    let text : Text := "<svg / ><p popover>"
    let masked := mask text
    let p : Text.Match Tag := ⟨8, 11, ⟨"p", " popover"⟩⟩
    let index : Index := { markup := [("popover", { id := "popover", name := [], status := .newly })] }
    p ∈ Text.Matches.all Tag.recognise masked ∧
      ¬ (within (foreignRanges masked) p.start = true ↔
        0 < depth (foreignBefore (Text.endsWith · "/") masked p.start)) ∧
      scan text index = [⟨Range.onLine 0 11 18, .newly, "popover", "popover"⟩] := by
  intro text masked p index
  have htags : Text.Matches.all Tag.recognise masked = [⟨0, 8, ⟨"svg", " / "⟩⟩, p] := by rfl
  refine ⟨?_, by decide +kernel, by decide +kernel⟩
  rw [htags]
  exact List.mem_cons_of_mem _ (List.mem_singleton_self p)

end WebBaseline.Markup
