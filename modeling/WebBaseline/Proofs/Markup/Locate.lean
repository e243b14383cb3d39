import WebBaseline.Proofs.Markup.Construct
import WebBaseline.Proofs.Markup.Foreign
import WebBaseline.Proofs.Text.Name
import WebBaseline.Proofs.Text.Position

/-! Names where an opening tag has them.

A document that is one opening tag around names in lower case mentions them at their places: the element,
its attributes and their values. -/
namespace WebBaseline.Markup

open Text (IsName IsLowName)

/-! ### A document of one tag -/

/-- The text of an opening tag. -/
def Tag.text (t : Tag) : Text :=
  '<' :: (t.name ++ (t.inner ++ ['>']))

theorem Tag.length_text (t : Tag) : t.text.length = t.name.length + t.inner.length + 2 := by
  simp only [Tag.text, List.length_cons, List.length_append, List.length_nil]
  omega

/-- The tag as the first construct of a document. -/
def Tag.first (t : Tag) : Text.Match Tag :=
  ⟨0, t.name.length + t.inner.length + 2, t⟩

/-- A character inside of a tag that ends neither the tag nor the line and is no part of a comment mark. -/
def isCalm (c : Char) : Bool :=
  isInner c && c != '!' && c != '\n'

/-- A tag whose text is one line and reads as the tag. -/
structure Tag.Plain (t : Tag) : Prop where
  name : IsName t.name
  lead : t.inner = [] ∨ ∃ s, t.inner = ' ' :: s
  inner : t.inner.all isCalm = true

theorem calm_of_isName {s : Text} (h : IsName s) : s.all isCalm = true :=
  List.all_eq_true.mpr (h.forall_mem (by decide +kernel))

/-- A document without exclamation marks has no comments. -/
theorem mask_of_not_mem {s : Text} (h : '!' ∉ s) : mask s = s := by
  unfold mask
  induction s with
  | nil => rfl
  | cons c s ih =>
    have hs : '!' ∉ s := fun hm => h (List.mem_cons_of_mem c hm)
    rw [maskFrom, ih hs]
    rintro t - rfl
    exact hs (List.mem_cons_self ..)

namespace Tag.Plain

variable {t : Tag}

theorem not_mem_text (h : t.Plain) {c : Char} (hc : isCalm c = false) (hopen : c ≠ '<')
    (hclose : c ≠ '>') : c ∉ t.text := by
  have hfree : ∀ s : Text, s.all isCalm = true → c ∉ s := by
    intro s hs hm
    rw [List.all_eq_true.mp hs c hm] at hc
    cases hc
  have hname := hfree t.name (calm_of_isName h.name)
  have hinner := hfree t.inner h.inner
  simp [Tag.text, hopen, hclose, hname, hinner]

/-- A text in brackets is read up to the closing one. -/
theorem inner?_close (h : t.Plain) : inner? (t.inner ++ ['>']) = some t.inner := by
  have hinner : ∀ c ∈ t.inner, isInner c = true := by
    intro c hc
    have := List.all_eq_true.mp h.inner c hc
    simp only [isCalm, Bool.and_eq_true] at this
    exact this.1.1
  rw [inner?, Text.dropWhile_run hinner rfl, Text.takeWhile_run hinner rfl]
  rfl

theorem recognise_text (h : t.Plain) :
    Tag.recognise t.text = some (t.name.length + t.inner.length + 2, t) := by
  have hchars := h.name.forall_mem (p := (isTagChar · = true)) (by decide +kernel)
  have hends : endsName (t.inner ++ ['>']) = true ∧
      (t.inner ++ ['>']).takeWhile isTagChar = [] ∧
      (t.inner ++ ['>']).dropWhile isTagChar = t.inner ++ ['>'] := by
    rcases h.lead with hnil | ⟨s, hs⟩
    · rw [hnil]
      decide
    · rw [hs]
      exact ⟨rfl, rfl, rfl⟩
  have hname : (t.name ++ (t.inner ++ ['>'])).takeWhile isTagChar = t.name := by
    rw [List.takeWhile_append_of_pos hchars, hends.2.1, List.append_nil]
  have hrest : (t.name ++ (t.inner ++ ['>'])).dropWhile isTagChar = t.inner ++ ['>'] := by
    rw [List.dropWhile_append_of_pos hchars, hends.2.2]
  simp [Tag.text, Tag.recognise, hname, hrest, h.name.isLetter_take, h.name.ne_nil, hends.1,
    h.inner?_close]

theorem first_mem_scannedTags (h : t.Plain) : t.first ∈ scannedTags t.text := by
  have hmask : mask t.text = t.text :=
    mask_of_not_mem (h.not_mem_text rfl (by decide) (by decide))
  have hne : t.text ≠ [] := List.cons_ne_nil _ _
  rw [scannedTags, hmask, Text.Matches.all, Text.Matches.allFrom_of_some hne h.recognise_text]
  refine List.mem_filter.mpr ⟨List.mem_cons_self .., ?_⟩
  -- Foreign content starts behind a bracket, and so not at the start of the document.
  simp only [Bool.not_eq_true', within, List.any_eq_false]
  intro r hr
  obtain ⟨before, _, -, hstart⟩ := exists_of_mem_foreignRanges hr
  simp [hstart, Tag.first]

theorem ofOffsets_text (h : t.Plain) {start stop : Nat} (hle : start ≤ stop)
    (hstop : stop ≤ t.text.length) :
    Range.ofOffsets t.text start stop = Range.onLine 0 start stop := by
  have hbreak : '\n' ∉ t.text := h.not_mem_text rfl (by decide) (by decide)
  rw [Range.ofOffsets, Text.position_free hbreak (by omega), Text.position_free hbreak hstop]
  rfl

/-- A construct of the tag is looked up. -/
theorem mem_scan (h : t.Plain) {index : Index} {ms : List Mention} {f : Finding}
    (hms : ms ∈ tagConstructs t.text t.first)
    (hf : Mention.firstFinding? index.markup ms = some f) : f ∈ scan t.text index := by
  rw [scan_eq_constructs]
  exact List.mem_filterMap.mpr ⟨ms, List.mem_flatMap.mpr ⟨_, h.first_mem_scannedTags, hms⟩, hf⟩

end Tag.Plain

/-! ### Elements -/

/-- An element is reported on the name of its tag. -/
theorem exists_finding_element {t : Text} (ht : IsLowName t) {index : Index} {e : Entry}
    (he : index.markup.get? t = some e) (hw : e.status ≠ .widely) :
    ∃ f ∈ scan (Tag.text ⟨t, []⟩) index, f.key = t ∧ f.status = e.status ∧
      f.range = Range.onLine 0 1 (1 + t.length) := by
  have hplain : Tag.Plain ⟨t, []⟩ := ⟨ht.name, .inl rfl, rfl⟩
  have hlen : (Tag.text ⟨t, []⟩).length = t.length + 0 + 2 := Tag.length_text _
  have hmention : tagMention (Tag.text ⟨t, []⟩) (Tag.first ⟨t, []⟩) =
      ⟨t, Range.onLine 0 1 (1 + t.length), "<" ++ t ++ ">"⟩ := by
    rw [← hplain.ofOffsets_text (by omega) (by omega)]
    simp only [tagMention, Tag.first, ht.lower_eq, Nat.zero_add]
  obtain ⟨f, hf, hfinding⟩ := Mention.exists_finding?
    (m := ⟨t, Range.onLine 0 1 (1 + t.length), "<" ++ t ++ ">"⟩) he hw
  refine ⟨f, hplain.mem_scan (List.mem_cons_self ..) ?_, hfinding⟩
  rw [hmention, Mention.firstFinding?_singleton, hf]

/-! ### Attributes -/

/-- An attribute is reported under the first of its keys that the table knows. -/
theorem exists_finding_attribute {t : Tag} (ht : t.Plain) {a : Text.Match Attribute}
    (ha : a ∈ Text.Matches.all Attribute.recognise t.inner) {index : Index}
    {before after : List (Text × Bool)} {key : Text × Bool} {e : Entry}
    (hkeys : attributeKeys (Text.lower t.name) (Text.lower a.value.name)
      (a.value.value.map fun (_, raw) => (Text.strip raw).lower) = before ++ key :: after)
    (hbefore : ∀ k ∈ before, index.markup.get? k.1 = none)
    (he : index.markup.get? key.1 = some e) (hw : e.status ≠ .widely) :
    ∃ f ∈ scan t.text index, f.key = key.1 ∧ f.status = e.status ∧
      f.range = (keyMention t.text (t.first.start + 1 + t.name.length) a key).range := by
  have hknown : index.markup.get?
      (keyMention t.text (t.first.start + 1 + t.name.length) a key).key = some e := by
    rwa [keyMention_key]
  obtain ⟨f, hf, hkey, hfinding⟩ := Mention.exists_finding? hknown hw
  rw [keyMention_key] at hkey
  have hmentions : attributeMentions t.text (Text.lower t.name)
      (t.first.start + 1 + t.name.length) a ∈ tagConstructs t.text t.first :=
    List.mem_cons_of_mem _ (List.mem_map_of_mem ha)
  refine ⟨f, ht.mem_scan hmentions ?_, hkey, hfinding⟩
  rw [attributeMentions, hkeys, List.map_append, List.map_cons,
    Mention.firstFinding?_append _ hknown, hf]
  intro m hm
  obtain ⟨k, hk, rfl⟩ := List.mem_map.mp hm
  rw [keyMention_key]
  exact hbefore k hk

theorem mem_all_recognise {s : Text} (hs : s ≠ []) {n : Nat} {a : Attribute}
    (h : Attribute.recognise s = some (n, a)) :
    ⟨1, n, a⟩ ∈ Text.Matches.all Attribute.recognise (' ' :: s) := by
  rw [Text.Matches.all, Text.Matches.allFrom_of_none rfl, Text.Matches.allFrom_of_some hs h]
  exact List.mem_cons_self ..

theorem recognise_bare {a : Text} (ha : IsName a) :
    Attribute.recognise a = some (a.length, ⟨a, none⟩) := by
  have hchars := ha.forall_mem (p := (isAttributeChar · = true)) (by decide +kernel)
  have hname := List.takeWhile_eq_self_iff.mpr hchars
  have hrest := List.dropWhile_eq_nil_iff.mpr hchars
  simp [Attribute.recognise, hname, hrest, ha.ne_nil, attributeValue?]

/-- An attribute without a value is reported on its name. -/
theorem exists_finding_bare {t a : Text} (ht : IsLowName t) (ha : IsLowName a) {index : Index}
    {before after : List (Text × Bool)} {key : Text} {e : Entry}
    (hkeys : attributeKeys t a none = before ++ (key, false) :: after)
    (hbefore : ∀ k ∈ before, index.markup.get? k.1 = none)
    (he : index.markup.get? key = some e) (hw : e.status ≠ .widely) :
    ∃ f ∈ scan (Tag.text ⟨t, ' ' :: a⟩) index, f.key = key ∧ f.status = e.status ∧
      f.range = Range.onLine 0 (t.length + 2) (t.length + 2 + a.length) := by
  have hplain : Tag.Plain ⟨t, ' ' :: a⟩ := by
    refine ⟨ht.name, .inr ⟨a, rfl⟩, ?_⟩
    rw [List.all_cons, calm_of_isName ha.name]
    rfl
  have hread := mem_all_recognise ha.name.ne_nil (recognise_bare ha.name)
  rw [← ht.lower_eq, ← ha.lower_eq] at hkeys
  obtain ⟨f, hf, hkey, hstatus, hrange⟩ :=
    exists_finding_attribute hplain hread hkeys hbefore he hw
  refine ⟨f, hf, hkey, hstatus, hrange.trans ?_⟩
  have hlen := Tag.length_text ⟨t, ' ' :: a⟩
  have hstart : 0 + 1 + t.length + 1 = t.length + 2 := by omega
  simp only [List.length_cons] at hlen
  simp only [keyMention, Tag.first, hstart]
  exact hplain.ofOffsets_text (by omega) (by omega)

theorem quoted?_closed {v : Text} (hv : IsName v) : quoted? '"' (v ++ ['"']) = some v := by
  have hchars := hv.forall_mem (p := fun c => (c != '"') = true) (by decide +kernel)
  rw [quoted?, Text.dropWhile_run hchars rfl, Text.takeWhile_run hchars rfl]

theorem attributeValue?_quoted {v : Text} (hv : IsName v) :
    attributeValue? ('=' :: '"' :: (v ++ ['"'])) = some (2, v, v.length + 3) := by
  have hequals : Text.isBlank '=' = false := by decide
  have hquote : Text.isBlank '"' = false := by decide
  simp [attributeValue?, hequals, hquote, quoted?_closed hv]
  omega

theorem recognise_quoted {a v : Text} (ha : IsName a) (hv : IsName v) :
    Attribute.recognise (a ++ '=' :: '"' :: (v ++ ['"'])) =
      some (a.length + (v.length + 3), ⟨a, some (a.length + 2, v)⟩) := by
  have hchars := ha.forall_mem (p := (isAttributeChar · = true)) (by decide +kernel)
  have hequals : isAttributeChar '=' = false := by decide
  simp only [Attribute.recognise, Text.takeWhile_run hchars hequals,
    Text.dropWhile_run hchars hequals, attributeValue?_quoted hv]
  simp [ha.ne_nil]

/-- An attribute with a value that the table knows is reported on the value. -/
theorem exists_finding_quoted {t a v : Text} (ht : IsLowName t) (ha : IsLowName a) (hv : IsLowName v)
    {index : Index} {e : Entry}
    (he : index.markup.get? (t ++ "@" ++ a ++ "::" ++ v) = some e) (hw : e.status ≠ .widely) :
    ∃ f ∈ scan (Tag.text ⟨t, ' ' :: (a ++ '=' :: '"' :: (v ++ ['"']))⟩) index,
      f.key = t ++ "@" ++ a ++ "::" ++ v ∧ f.status = e.status ∧
        f.range = Range.onLine 0 (t.length + a.length + 4) (t.length + a.length + 4 + v.length) := by
  have hplain : Tag.Plain ⟨t, ' ' :: (a ++ '=' :: '"' :: (v ++ ['"']))⟩ := by
    refine ⟨ht.name, .inr ⟨_, rfl⟩, ?_⟩
    rw [List.all_cons, List.all_append, List.all_cons, List.all_cons, List.all_append,
      calm_of_isName ha.name, calm_of_isName hv.name]
    rfl
  have hread := mem_all_recognise (by simp) (recognise_quoted ha.name hv.name)
  have hkeys : attributeKeys (Text.lower t) (Text.lower a) (some (Text.strip v).lower) =
      [] ++ (t ++ "@" ++ a ++ "::" ++ v, true) ::
        (t ++ "@" ++ a, false) :: if commonAttributes.contains a then [] else [(a, false)] := by
    rw [ht.lower_eq, ha.lower_eq, hv.name.strip_eq, hv.lower_eq]
    cases v with
    | nil => exact hv.name.elim
    | cons c v => rfl
  obtain ⟨f, hf, hkey, hstatus, hrange⟩ :=
    exists_finding_attribute hplain hread hkeys (by simp) he hw
  refine ⟨f, hf, hkey, hstatus, hrange.trans ?_⟩
  have hlen := Tag.length_text ⟨t, ' ' :: (a ++ '=' :: '"' :: (v ++ ['"']))⟩
  have hstart : 0 + 1 + t.length + 1 + (a.length + 2) = t.length + a.length + 4 := by omega
  simp only [List.length_cons, List.length_append, List.length_nil] at hlen
  simp only [keyMention, Tag.first, hstart]
  exact hplain.ofOffsets_text (by omega) (by omega)

end WebBaseline.Markup
