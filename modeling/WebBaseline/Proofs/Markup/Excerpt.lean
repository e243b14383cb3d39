import WebBaseline.Proofs.Markup.Comment
import WebBaseline.Proofs.Markup.Construct
import WebBaseline.Proofs.Markup.Foreign
import WebBaseline.Proofs.Text.Position
import WebBaseline.Proofs.Text.Slice

/-! Findings of a document point at the source, in order.

The place of a finding is put together from the place of its tag in the masked document, the place of an
attribute in the tag's inner text and the place of a value in the attribute, and then becomes a pair of
positions in the document as it was written. `Names` says what a tag can be looked up for and under which
keys, and `PointsAt` that this is what stands at the place of a finding.

`scan_ordered_excerpts` says that every finding points at the source, outside of foreign content, and
that each one ends before the next one starts. -/
namespace WebBaseline.Markup

/-! ### What a tag names -/

/-- Where the inner text of a tag starts. -/
def innerStart (t : Text.Match Tag) : Nat :=
  t.start + 1 + t.value.name.length

/-- The attributes of a tag, at their places in its inner text. -/
def attributes (t : Text.Match Tag) : List (Text.Match Attribute) :=
  Text.Matches.all Attribute.recognise t.value.inner

/-- A tag names a feature by the text `s` at the offset `start`, which is looked up under `key`. -/
inductive Names (t : Text.Match Tag) : (start : Nat) → (s key : Text) → Prop where
  /-- The element, by the name of the tag. -/
  | tag {s : Text} (hs : s = t.value.name) : Names t (t.start + 1) s (Text.lower s)
  /-- A global attribute, by its name. -/
  | globalAttribute {s : Text} {a : Text.Match Attribute} (ha : a ∈ attributes t)
    (hs : s = a.value.name) : Names t (innerStart t + a.start) s (Text.lower s)
  /-- An attribute of the element, by its name. -/
  | attribute {s : Text} {a : Text.Match Attribute} (ha : a ∈ attributes t)
    (hs : s = a.value.name) :
    Names t (innerStart t + a.start) s (Text.lower t.value.name ++ "@" ++ Text.lower s)
  /-- A value of an attribute of the element, without the blanks around it. -/
  | value {s : Text} {o : Nat} {a : Text.Match Attribute} (ha : a ∈ attributes t)
    (hs : a.value.value = some (o, s)) :
    Names t (innerStart t + a.start + o) s
      (Text.lower t.value.name ++ "@" ++ Text.lower a.value.name ++ "::" ++
        Text.lower (Text.strip s))

/-- A finding points at the source: at a stretch of the tag `t`, outside of foreign content, where the
masked document has what the tag names under the finding's key. -/
structure PointsAt (text : Text) (f : Finding) (t : Text.Match Tag) (start stop : Nat) : Prop where
  tag : t ∈ scannedTags text
  range : f.range = Range.ofOffsets text start stop
  proper : start < stop
  inside : stop ≤ text.length
  within : t.start < start ∧ stop ≤ t.stop
  native : ∀ r ∈ foreignRanges (mask text), stop ≤ r.1 ∨ r.2 ≤ start
  names : Names t start ((mask text).slice start stop) f.key

/-! ### Where a mention stands -/

/-- The mention is of the text `s` of the masked document, which the tag `t` names, at the offset `start`
and between `lo` and `hi`. -/
structure Stands (text : Text) (t : Text.Match Tag) (lo hi start : Nat) (s : Text) (m : Mention) :
    Prop where
  here : s <+: (mask text).drop start
  filled : s ≠ []
  from_lo : lo ≤ start
  to_hi : start + s.length ≤ hi
  range : m.range = Range.ofOffsets text start (start + s.length)
  names : Names t start s m.key

/-- Where name and inner text of a tag stand. -/
theorem of_mem_tags {masked : Text} {t : Text.Match Tag}
    (ht : t ∈ Text.Matches.all Tag.recognise masked) :
    t.value.name ≠ [] ∧ t.value.name <+: masked.drop (t.start + 1) ∧
      t.value.inner <+: masked.drop (innerStart t) ∧
      t.stop = innerStart t + t.value.inner.length + 1 := by
  obtain ⟨before, rest, rfl, hstart, hread⟩ := Text.Matches.exists_of_mem_all ht
  obtain ⟨behind, rfl, hlen, hname, -⟩ := Tag.exists_of_recognise hread
  have hfront : '<' :: t.value.name ++ t.value.inner <+:
      (before ++ ('<' :: t.value.name ++ t.value.inner ++ '>' :: behind)).drop t.start := by
    rw [hstart, List.drop_left]
    exact List.prefix_append ..
  refine ⟨hname, Text.prefix_drop_drop hfront (List.prefix_append ..), ?_, ?_⟩
  · rw [innerStart, Nat.add_assoc, Nat.add_comm 1]
    exact Text.prefix_drop_drop hfront (by simp)
  · rw [Text.Match.stop, innerStart, hlen]
    omega

theorem stands_tagMention {text : Text} {t : Text.Match Tag}
    (ht : t ∈ Text.Matches.all Tag.recognise (mask text)) :
    Stands text t (t.start + 1) (innerStart t) (t.start + 1) t.value.name (tagMention text t) := by
  obtain ⟨hname, hhere, -, -⟩ := of_mem_tags ht
  exact ⟨hhere, hname, Nat.le_refl _, Nat.le_refl _, rfl, .tag rfl⟩

/-- The keys of an attribute. -/
theorem of_mem_attributeKeys {tag attr : Text} {value : Option Text} {key : Text × Bool}
    (h : key ∈ attributeKeys tag attr value) :
    (∃ v ≠ [], value = some v ∧ key = (tag ++ "@" ++ attr ++ "::" ++ v, true)) ∨
      key = (tag ++ "@" ++ attr, false) ∨ key = (attr, false) := by
  unfold attributeKeys at h
  rcases List.mem_append.mp h with h | h
  · match value with
    | some (c :: v) => exact .inl ⟨c :: v, List.cons_ne_nil c v, rfl, List.mem_singleton.mp h⟩
    | some [] | none => cases h
  · rcases List.mem_cons.mp h with h | h
    · exact .inr (.inl h)
    · split at h
      · cases h
      · exact .inr (.inr (List.mem_singleton.mp h))

/-- A mention of an attribute stands within the attribute. -/
theorem stands_attributeMentions {text : Text} {t : Text.Match Tag}
    (ht : t ∈ Text.Matches.all Tag.recognise (mask text)) {a : Text.Match Attribute}
    (ha : a ∈ attributes t) {m : Mention}
    (hm : m ∈ attributeMentions text (Text.lower t.value.name) (innerStart t) a) :
    ∃ start s, Stands text t (innerStart t + a.start) (innerStart t + a.stop) start s m := by
  obtain ⟨-, -, hinner, -⟩ := of_mem_tags ht
  obtain ⟨before, rest, hrest, hstart, hread⟩ := Text.Matches.exists_of_mem_all ha
  have hreads := Attribute.reads_of_recognise hread
  have hdrop : rest <+: (mask text).drop (innerStart t + a.start) := by
    apply Text.prefix_drop_drop hinner
    simp [hrest, hstart]
  have hstop : a.stop = a.start + a.length := rfl
  -- Both keys that go by the name stand on the name.
  have byName : ∀ {key : Text}, Names t (innerStart t + a.start) a.value.name key →
      Stands text t (innerStart t + a.start) (innerStart t + a.stop) (innerStart t + a.start)
        a.value.name (keyMention text (innerStart t) a (key, false)) := by
    intro key hnames
    have hle := hreads.name_le
    exact ⟨hreads.name.trans hdrop, hreads.named, Nat.le_refl _, by omega, rfl, hnames⟩
  obtain ⟨key, hkey, rfl⟩ := List.mem_map.mp hm
  rcases of_mem_attributeKeys hkey with ⟨v, hv, hvalue, rfl⟩ | rfl | rfl
  · obtain ⟨⟨o, raw⟩, hraw, rfl⟩ := Option.map_eq_some_iff.mp hvalue
    obtain ⟨hhere, hle⟩ := hreads.value o raw hraw
    have hne : raw ≠ [] := by
      rintro rfl
      exact hv rfl
    refine ⟨innerStart t + a.start + o, raw, Text.prefix_drop_drop hdrop hhere, hne,
      Nat.le_add_right .., by omega, ?_, ?_⟩
    · simp only [keyMention, hraw]
    · rw [keyMention_key]
      exact .value ha hraw
  · exact ⟨_, _, byName (.attribute ha rfl)⟩
  · exact ⟨_, _, byName (.globalAttribute ha rfl)⟩

theorem stop_le_of_mem_attributes {t : Text.Match Tag} {a : Text.Match Attribute}
    (ha : a ∈ attributes t) : a.stop ≤ t.value.inner.length := by
  obtain ⟨before, rest, hrest, hstart, hread⟩ := Text.Matches.exists_of_mem_all ha
  have hinside := (Attribute.reads_of_recognise hread).inside
  rw [hrest, List.length_append, Text.Match.stop]
  omega

/-- A mention of a tag stands within the tag. -/
theorem stands_tagConstructs {text : Text} {t : Text.Match Tag}
    (ht : t ∈ Text.Matches.all Tag.recognise (mask text)) {ms : List Mention}
    (hms : ms ∈ tagConstructs text t) {m : Mention} (hm : m ∈ ms) :
    ∃ start s, Stands text t (t.start + 1) t.stop start s m := by
  obtain ⟨-, -, -, hstop⟩ := of_mem_tags ht
  have hinner : innerStart t = t.start + 1 + t.value.name.length := rfl
  rcases List.mem_cons.mp hms with rfl | hms
  · rw [List.mem_singleton.mp hm]
    have h := stands_tagMention ht
    exact ⟨_, _, { h with to_hi := by have := h.to_hi; omega }⟩
  · obtain ⟨a, ha, rfl⟩ := List.mem_map.mp hms
    obtain ⟨start, s, h⟩ := stands_attributeMentions ht ha hm
    have hle := stop_le_of_mem_attributes ha
    exact ⟨start, s, { h with
      from_lo := by have := h.from_lo; omega
      to_hi := by have := h.to_hi; omega }⟩

/-! ### Order -/

/-- One place ends before another one starts. -/
theorem stop_le_start {text : Text} {t t' : Text.Match Tag} {lo hi start lo' hi' start' : Nat}
    {s s' : Text} {m m' : Mention} (h : Stands text t lo hi start s m)
    (h' : Stands text t' lo' hi' start' s' m') (hle : hi ≤ lo') :
    m.range.stop ≤ m'.range.start := by
  have hhi := h.to_hi
  have hlo := h'.from_lo
  have hinside := Text.add_length_le_of_prefix h'.here h'.filled
  rw [length_mask] at hinside
  rw [h.range, h'.range]
  exact Text.position_le_position (by omega) (by omega)

/-- The construct `ms` ends before the construct `ms'` starts. -/
def Precedes (ms ms' : List Mention) : Prop :=
  ∀ m ∈ ms, ∀ m' ∈ ms', m.range.stop ≤ m'.range.start

theorem pairwise_tagConstructs {text : Text} {t : Text.Match Tag}
    (ht : t ∈ Text.Matches.all Tag.recognise (mask text)) :
    (tagConstructs text t).Pairwise Precedes := by
  refine List.pairwise_cons.mpr ⟨fun ms hms m hm m' hm' => ?_, List.pairwise_map.mpr ?_⟩
  · obtain ⟨a, ha, rfl⟩ := List.mem_map.mp hms
    obtain ⟨_, _, h'⟩ := stands_attributeMentions ht ha hm'
    rw [List.mem_singleton.mp hm]
    exact stop_le_start (stands_tagMention ht) h' (Nat.le_add_right ..)
  · refine (Text.Matches.pairwise_all _ _).imp_of_mem fun {a b} ha hb hab m hm m' hm' => ?_
    obtain ⟨_, _, h⟩ := stands_attributeMentions ht ha hm
    obtain ⟨_, _, h'⟩ := stands_attributeMentions ht hb hm'
    exact stop_le_start h h' (Nat.add_le_add_left hab _)

theorem mem_tags_of_scanned {text : Text} {t : Text.Match Tag} (h : t ∈ scannedTags text) :
    t ∈ Text.Matches.all Tag.recognise (mask text) :=
  (List.mem_filter.mp h).1

theorem pairwise_constructs (text : Text) : (constructs text).Pairwise Precedes := by
  refine List.pairwise_flatMap.mpr ⟨fun t ht => pairwise_tagConstructs (mem_tags_of_scanned ht), ?_⟩
  refine ((Text.Matches.pairwise_all _ _).filter _).imp_of_mem
    fun {t t'} ht ht' hle ms hms ms' hms' m hm m' hm' => ?_
  obtain ⟨_, _, h⟩ := stands_tagConstructs (mem_tags_of_scanned ht) hms hm
  obtain ⟨_, _, h'⟩ := stands_tagConstructs (mem_tags_of_scanned ht') hms' hm'
  exact stop_le_start h h' (by omega)

/-- A tag that is looked up lies outside of foreign content, as a whole. -/
theorem native_of_scanned {text : Text} {t : Text.Match Tag} (h : t ∈ scannedTags text)
    {r : Nat × Nat} (hr : r ∈ foreignRanges (mask text)) : t.stop ≤ r.1 ∨ r.2 ≤ t.start := by
  obtain ⟨ht, hwithin⟩ := List.mem_filter.mp h
  have hout : ¬ (r.1 ≤ t.start ∧ t.start < r.2) := by
    intro hin
    have : within (foreignRanges (mask text)) t.start = true :=
      List.any_eq_true.mpr ⟨r, hr, by simpa using hin⟩
    rw [this] at hwithin
    cases hwithin
  by_cases hstart : t.start < r.1
  · exact .inl (stop_le_of_mem_foreignRanges ht hr hstart)
  · exact .inr (by omega)

theorem pointsAt_of_mem_scan {text : Text} {index : Index} {f : Finding}
    (hf : f ∈ scan text index) : ∃ t start stop, PointsAt text f t start stop := by
  rw [scan_eq_constructs] at hf
  obtain ⟨ms, hms, hf⟩ := List.mem_filterMap.mp hf
  obtain ⟨t, ht, hms⟩ := List.mem_flatMap.mp hms
  obtain ⟨m, hm, hf⟩ := Mention.exists_of_firstFinding? hf
  obtain ⟨start, s, h⟩ := stands_tagConstructs (mem_tags_of_scanned ht) hms hm
  have hpos := List.length_pos_iff.mpr h.filled
  have hlo := h.from_lo
  have hhi := h.to_hi
  have hinside := Text.add_length_le_of_prefix h.here h.filled
  rw [length_mask] at hinside
  refine ⟨t, start, start + s.length, {
    tag := ht
    range := (Mention.range_of_finding? hf).trans h.range
    proper := by omega
    inside := hinside
    within := by omega
    native := fun r hr => by
      have := native_of_scanned ht hr
      omega
    names := ?_ }⟩
  rw [Text.slice_of_prefix h.here, Mention.key_of_finding? hf]
  exact h.names

theorem PointsAt.range_proper {text : Text} {f : Finding} {t : Text.Match Tag} {start stop : Nat}
    (h : PointsAt text f t start stop) : f.range.start < f.range.stop := by
  rw [h.range]
  exact Text.position_lt_position h.proper h.inside

/-- **Findings of a document are listed in order, do not overlap, and point at the source that they
report.** -/
theorem scan_ordered_excerpts (text : Text) (index : Index) :
    ((scan text index).Pairwise fun f g =>
      f.range.start < g.range.start ∧ f.range.stop ≤ g.range.start) ∧
    ∀ f ∈ scan text index, f.range.start < f.range.stop ∧
      ∃ t start stop, PointsAt text f t start stop := by
  have hpoints : ∀ f ∈ scan text index, f.range.start < f.range.stop ∧
      ∃ t start stop, PointsAt text f t start stop := by
    intro f hf
    obtain ⟨t, start, stop, h⟩ := pointsAt_of_mem_scan hf
    exact ⟨h.range_proper, t, start, stop, h⟩
  have hordered : (scan text index).Pairwise fun f g => f.range.stop ≤ g.range.start := by
    rw [scan_eq_constructs, List.pairwise_filterMap]
    refine (pairwise_constructs text).imp fun {ms ms'} hms f hf f' hf' => ?_
    obtain ⟨m, hm, hf⟩ := Mention.exists_of_firstFinding? hf
    obtain ⟨m', hm', hf'⟩ := Mention.exists_of_firstFinding? hf'
    rw [Mention.range_of_finding? hf, Mention.range_of_finding? hf']
    exact hms m hm m' hm'
  refine ⟨hordered.imp_of_mem fun {f g} hf _ hle => ?_, hpoints⟩
  exact ⟨Position.lt_of_lt_of_le (hpoints f hf).1 hle, hle⟩

/-- A value in a tag of two lines, behind a comment and before foreign content. -/
theorem scan_ordered_excerpts_email :
    let text : Text := "<!--é-->\n<Input\r\n Type=' Email 'Popover><svg><p popover></svg>"
    let entry : Entry := { id := "forms", name := [], status := .newly }
    let index : Index := { markup := [("input@type::email", entry), ("popover", entry)] }
    let email : Finding := ⟨Range.onLine 2 7 14, .newly, "Type=\" Email \"", "input@type::email"⟩
    let popover : Finding := ⟨Range.onLine 2 15 22, .newly, "Popover", "popover"⟩
    scan text index = [email, popover] ∧
      (email.range.start < popover.range.start ∧ email.range.stop ≤ popover.range.start) ∧
      email.range.start < email.range.stop ∧
      ∃ t start stop, PointsAt text email t start stop := by
  intro text entry index email popover
  have hscan : scan text index = [email, popover] := by decide +kernel
  have h := scan_ordered_excerpts text index
  rw [hscan] at h
  exact ⟨hscan, (List.pairwise_cons.mp h.1).1 popover (List.mem_singleton_self _),
    h.2 email (List.mem_cons_self ..)⟩

end WebBaseline.Markup
