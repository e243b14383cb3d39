import WebBaseline.Markup.Scan
import WebBaseline.Proofs.Scan.Mention
import WebBaseline.Proofs.Text.Search

/-! What an HTML document mentions.

Outside comments and foreign content, a document is a run of constructs: the names and the attributes of
its opening tags. A tag name has one key. An attribute has up to three: its value on this element, its
name on this element and its name as a global attribute (`attributeMentions`). `scan_eq_constructs` says
that a scan looks up the constructs one by one, in order, each by the first of its keys that the table
knows. -/
namespace WebBaseline.Markup

/-- The keys of an attribute in order of preference, each with whether it names the value. -/
def attributeKeys (tag attr : Text) (value : Option Text) : List (Text × Bool) :=
  (match value with
    | some (c :: v) => [(tag ++ "@" ++ attr ++ "::" ++ (c :: v), true)]
    | _ => []) ++
  (tag ++ "@" ++ attr, false) :: if commonAttributes.contains attr then [] else [(attr, false)]

/-- The mention of an attribute under a key: on its value if the key names that, or else on its name. -/
def keyMention (text : Text) (base : Nat) (m : Text.Match Attribute) (key : Text × Bool) : Mention :=
  match key.2, m.value.value with
  | true, some (start, raw) =>
    ⟨key.1, Range.ofOffsets text (base + m.start + start) (base + m.start + start + raw.length),
      m.value.name ++ "=\"" ++ raw ++ "\""⟩
  | _, _ =>
    ⟨key.1, Range.ofOffsets text (base + m.start) (base + m.start + m.value.name.length),
      m.value.name⟩

/-- The mentions of an attribute in order of preference. -/
def attributeMentions (text tag : Text) (base : Nat) (m : Text.Match Attribute) : List Mention :=
  (attributeKeys tag (Text.lower m.value.name)
    (m.value.value.map fun (_, raw) => (Text.strip raw).lower)).map (keyMention text base m)

/-- The mention of a tag by its name. -/
def tagMention (text : Text) (m : Text.Match Tag) : Mention :=
  ⟨Text.lower m.value.name,
    Range.ofOffsets text (m.start + 1) (m.start + 1 + m.value.name.length),
    "<" ++ m.value.name ++ ">"⟩

/-- The constructs of a tag: its name, then its attributes. -/
def tagConstructs (text : Text) (m : Text.Match Tag) : List (List Mention) :=
  [tagMention text m] :: (Text.Matches.all Attribute.recognise m.value.inner).map
    (attributeMentions text (Text.lower m.value.name) (m.start + 1 + m.value.name.length))

/-- The opening tags of a document that are looked up. -/
def scannedTags (text : Text) : List (Text.Match Tag) :=
  (Text.Matches.all Tag.recognise (mask text)).filter fun m =>
    !within (foreignRanges (mask text)) m.start

/-- The constructs of a document, in order. -/
def constructs (text : Text) : List (List Mention) :=
  (scannedTags text).flatMap (tagConstructs text)

/-! ### The scan looks up the constructs -/

/-- Trying one key, and then a list of others. -/
theorem orElse_findSome? {α β : Type} (f : α → Option β) (a : α) (rest : List α) :
    (f a <|> rest.findSome? f) = (a :: rest).findSome? f := by
  rw [List.findSome?_cons]
  cases f a <;> rfl

theorem lookupAttribute_eq (markup : Table Entry) (tag attr : Text) (value : Option Text) :
    lookupAttribute markup tag attr value =
      (attributeKeys tag attr value).findSome? fun key =>
        (markup.get? key.1).map fun e => (key.1, e, key.2) := by
  unfold attributeKeys
  generalize hf : (fun key : Text × Bool => (markup.get? key.1).map fun e => (key.1, e, key.2)) = f
  have byGlobal : (if commonAttributes.contains attr then none else f (attr, false)) =
      (if commonAttributes.contains attr then [] else [(attr, false)]).findSome? f := by
    split
    · rfl
    · rw [List.findSome?_singleton]
  have byName := orElse_findSome? f (tag ++ "@" ++ attr, false)
    (if commonAttributes.contains attr then [] else [(attr, false)])
  rw [← byGlobal] at byName
  subst hf
  match value with
  | none => exact byName
  | some [] => exact byName
  | some (c :: v) =>
    rw [List.singleton_append, ← orElse_findSome?, ← byName]
    rfl

@[simp] theorem keyMention_key (text : Text) (base : Nat) (m : Text.Match Attribute)
    (key : Text × Bool) : (keyMention text base m key).key = key.1 := by
  unfold keyMention
  split <;> rfl

theorem attributeFinding_eq (index : Index) (text tag : Text) (base : Nat)
    (m : Text.Match Attribute) :
    attributeFinding index text tag base m =
      Mention.firstFinding? index.markup (attributeMentions text tag base m) := by
  unfold attributeFinding attributeMentions
  simp only [lookupAttribute_eq]
  induction attributeKeys tag (Text.lower m.value.name)
    (m.value.value.map fun (_, raw) => (Text.strip raw).lower) with
  | nil => rfl
  | cons key rest ih =>
    rw [List.findSome?_cons, List.map_cons, Mention.firstFinding?, keyMention_key]
    cases h : index.markup.get? key.1 with
    | none => exact ih
    | some e =>
      rw [Mention.finding?, keyMention_key, h]
      unfold keyMention
      obtain ⟨key, onValue⟩ := key
      cases onValue <;> cases m.value.value <;> rfl

theorem tagFindings_eq (index : Index) (text : Text) (m : Text.Match Tag) :
    tagFindings index text m =
      (tagConstructs text m).filterMap (Mention.firstFinding? index.markup) := by
  unfold tagConstructs
  rw [List.filterMap_cons, Mention.firstFinding?_singleton, List.filterMap_map]
  have attributes : Mention.firstFinding? index.markup ∘ attributeMentions text
      (Text.lower m.value.name) (m.start + 1 + m.value.name.length) =
      attributeFinding index text (Text.lower m.value.name) (m.start + 1 + m.value.name.length) :=
    funext fun a => (attributeFinding_eq ..).symm
  rw [attributes]
  show ((tagMention text m).finding? index.markup).toList ++ _ = _
  cases (tagMention text m).finding? index.markup <;> rfl

/-- **A scan looks up the constructs of the document.** -/
theorem scan_eq_constructs (text : Text) (index : Index) :
    scan text index = (constructs text).filterMap (Mention.firstFinding? index.markup) := by
  unfold constructs
  rw [List.filterMap_flatMap]
  simp only [← tagFindings_eq]
  rfl

/-! ### What the constructs are called -/

theorem name_ne_nil_of_recognise {s : Text} {n : Nat} {a : Attribute}
    (h : Attribute.recognise s = some (n, a)) : a.name ≠ [] := by
  simp only [Attribute.recognise] at h
  split at h
  · cases h
  · rename_i hne
    split at h <;> cases h <;> simpa using hne

theorem named_keyMention (text : Text) (base : Nat) {m : Text.Match Attribute}
    (h : m.value.name ≠ []) (key : Text × Bool) : (keyMention text base m key).fallback ≠ [] := by
  unfold keyMention
  split
  · simp
  · exact h

/-- Every mention of a document can be called something. -/
theorem named_constructs (text : Text) : ∀ ms ∈ constructs text, ∀ m ∈ ms, m.fallback ≠ [] := by
  intro ms hms m hm
  obtain ⟨tag, -, hms⟩ := List.mem_flatMap.mp hms
  rcases List.mem_cons.mp hms with rfl | hms
  · rw [List.mem_singleton.mp hm]
    simp [tagMention]
  · obtain ⟨a, ha, rfl⟩ := List.mem_map.mp hms
    obtain ⟨_, _, -, -, hr⟩ := Text.Matches.exists_of_mem_all ha
    obtain ⟨key, -, rfl⟩ := List.mem_map.mp hm
    exact named_keyMention text _ (name_ne_nil_of_recognise hr) key

end WebBaseline.Markup
