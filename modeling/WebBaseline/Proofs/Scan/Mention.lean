import WebBaseline.Finding

/-! Mentions: the places of a source that may use a feature.

What a scanner reads off a source does not depend on the index: the keys it will ask for, where each
stands, and what to call it if the index has no name for it. A table then turns a mention into a finding
or passes it over (`Mention.finding?`). Where a construct has several keys, its mentions stand in order
of preference and the first one that the table knows decides (`Mention.firstFinding?`).

What holds of a finding is therefore proved once for all mentions: it reports an entry of the table
(`Mention.reports_of_firstFinding?`), and pinning keys to widely available takes findings away and
changes none (`Mention.firstFinding?_pins`). -/
namespace WebBaseline

/-- A place that may use a feature. -/
structure Mention where
  key : Text
  range : Range
  /-- What the feature is called if the table has no name for it. -/
  fallback : Text

/-- What a finding owes the table it was looked up in: its key is there, under an entry of its status
that is not widely available, and it is called what the entry is called, or else something. -/
structure Finding.Reports (table : Table Entry) (f : Finding) : Prop where
  entry : ∃ e, table.get? f.key = some e ∧ e.status = f.status ∧
    (e.name ≠ [] → f.label = e.name) ∧ (e.name = [] → f.label ≠ [])
  notWidely : f.status ≠ .widely

/-- Whether the table knows the key, and not as widely available. -/
def Table.flags (table : Table Entry) (key : Text) : Bool :=
  (table.get? key).any fun e => !e.isWidely

namespace Mention

/-- The finding for a mention. -/
def finding? (table : Table Entry) (m : Mention) : Option Finding :=
  Finding.of? (table.get? m.key) m.key m.range m.fallback

/-- The finding for a construct with several mentions: the first one that the table knows decides. -/
def firstFinding? (table : Table Entry) : List Mention → Option Finding
  | [] => none
  | m :: rest => if (table.get? m.key).isSome then m.finding? table else firstFinding? table rest

theorem finding?_of_none {table : Table Entry} {m : Mention} (h : table.get? m.key = none) :
    m.finding? table = none := by
  rw [finding?, h]
  rfl

theorem firstFinding?_singleton (table : Table Entry) (m : Mention) :
    firstFinding? table [m] = m.finding? table := by
  cases h : table.get? m.key with
  | none => simp [firstFinding?, finding?_of_none h]
  | some e => simp [firstFinding?, h]

/-- The first mention that the table knows decides. -/
theorem firstFinding?_append {table : Table Entry} {before : List Mention}
    (h : ∀ m ∈ before, table.get? m.key = none) {m : Mention} {e : Entry}
    (he : table.get? m.key = some e) (after : List Mention) :
    firstFinding? table (before ++ m :: after) = m.finding? table := by
  induction before with
  | nil => simp [firstFinding?, he]
  | cons m' before ih =>
    have hm' := h m' (List.mem_cons_self ..)
    simp only [List.cons_append, firstFinding?, hm', Option.isSome_none]
    exact ih fun m hm => h m (List.mem_cons_of_mem _ hm)

/-- A finding is for the key of its mention. -/
theorem key_of_finding? {table : Table Entry} {m : Mention} {f : Finding}
    (h : m.finding? table = some f) : f.key = m.key := by
  unfold finding? Finding.of? at h
  split at h
  · cases h
  · split at h
    · cases h
    · cases h
      rfl

/-- A finding is at the place of its mention. -/
theorem range_of_finding? {table : Table Entry} {m : Mention} {f : Finding}
    (h : m.finding? table = some f) : f.range = m.range := by
  unfold finding? Finding.of? at h
  split at h
  · cases h
  · split at h
    · cases h
    · cases h
      rfl

/-- What the table knows and is not widely available is reported. -/
theorem exists_finding? {table : Table Entry} {m : Mention} {e : Entry}
    (he : table.get? m.key = some e) (hw : e.status ≠ .widely) :
    ∃ f, m.finding? table = some f ∧ f.key = m.key ∧ f.status = e.status ∧ f.range = m.range := by
  have hw : e.isWidely = false := by simpa [Entry.isWidely] using hw
  rw [finding?, he, Finding.of?, hw]
  exact ⟨_, rfl, rfl, rfl, rfl⟩

theorem isSome_finding? (table : Table Entry) (m : Mention) :
    (m.finding? table).isSome = table.flags m.key := by
  unfold finding? Finding.of? Table.flags
  cases table.get? m.key with
  | none => rfl
  | some e =>
    simp only [Option.any_some]
    cases e.isWidely <;> rfl

/-- The keys of the findings are the flagged keys of the mentions. -/
theorem map_key_filterMap (table : Table Entry) (ms : List Mention) :
    (ms.filterMap (finding? table)).map Finding.key = (ms.map key).filter table.flags := by
  induction ms with
  | nil => rfl
  | cons m rest ih =>
    rw [List.filterMap_cons, List.map_cons, List.filter_cons, ← isSome_finding?]
    cases hf : m.finding? table with
    | none => exact ih
    | some f => simp [ih, key_of_finding? hf]

/-- The finding comes from one of the mentions. -/
theorem exists_of_firstFinding? {table : Table Entry} {ms : List Mention} {f : Finding}
    (h : firstFinding? table ms = some f) : ∃ m ∈ ms, m.finding? table = some f := by
  induction ms with
  | nil => cases h
  | cons m rest ih =>
    unfold firstFinding? at h
    split at h
    · exact ⟨m, List.mem_cons_self .., h⟩
    · obtain ⟨m', hm', hf⟩ := ih h
      exact ⟨m', List.mem_cons_of_mem _ hm', hf⟩

/-! ### Places -/

/-- The mention at another place: each position of its range becomes another one. -/
def move (g : Position → Position) (m : Mention) : Mention :=
  { m with range := ⟨g m.range.start, g m.range.stop⟩ }

end Mention

/-- The finding at another place. -/
def Finding.move (g : Position → Position) (f : Finding) : Finding :=
  { f with range := ⟨g f.range.start, g f.range.stop⟩ }

namespace Mention

/-- A table does not look at places. -/
theorem finding?_move (table : Table Entry) (g : Position → Position) (m : Mention) :
    (m.move g).finding? table = (m.finding? table).map (Finding.move g) := by
  unfold finding? Finding.of?
  simp only [move]
  cases table.get? m.key with
  | none => rfl
  | some e =>
    simp only
    split <;> rfl

theorem firstFinding?_move (table : Table Entry) (g : Position → Position) (ms : List Mention) :
    firstFinding? table (ms.map (move g)) = (firstFinding? table ms).map (Finding.move g) := by
  induction ms with
  | nil => rfl
  | cons m rest ih =>
    have hkey : (m.move g).key = m.key := rfl
    simp only [List.map_cons, firstFinding?, hkey, finding?_move, ih]
    split <;> rfl

/-! ### Soundness -/

theorem reports_of_finding? {table : Table Entry} {m : Mention} {f : Finding}
    (hm : m.fallback ≠ []) (h : m.finding? table = some f) : f.Reports table := by
  unfold finding? Finding.of? at h
  split at h
  · cases h
  · rename_i e he
    split at h
    · cases h
    · rename_i hw
      cases h
      refine ⟨⟨e, he, rfl, fun hn => ?_, fun hn => ?_⟩, by simpa [Entry.isWidely] using hw⟩
      · exact if_neg (by simpa using hn)
      · simpa [hn] using hm

theorem reports_of_firstFinding? {table : Table Entry} {ms : List Mention} {f : Finding}
    (hms : ∀ m ∈ ms, m.fallback ≠ []) (h : firstFinding? table ms = some f) : f.Reports table := by
  obtain ⟨m, hm, hf⟩ := exists_of_firstFinding? h
  exact reports_of_finding? (hms m hm) hf

end Mention

/-! ### Pinning -/

/-- `after` is `before` with the keys in `core` made widely available. -/
structure Table.Pins (core : Text → Prop) (before after : Table Entry) : Prop where
  kept : ∀ k, ¬ core k → after.get? k = before.get? k
  widely : ∀ k, core k → ∃ e, after.get? k = some e ∧ e.status = .widely

namespace Mention

variable {core : Text → Prop} {before after : Table Entry}

theorem finding?_of_core (h : before.Pins core after) {m : Mention} (hm : core m.key) :
    m.finding? after = none := by
  obtain ⟨e, he, hw⟩ := h.widely m.key hm
  simp [finding?, he, Finding.of?, Entry.isWidely, hw]

theorem finding?_of_not_core (h : before.Pins core after) {m : Mention} (hm : ¬ core m.key) :
    m.finding? after = m.finding? before := by
  rw [finding?, h.kept m.key hm]
  rfl

/-- A mention whose key is pinned is passed over, and every other one is reported as before. -/
theorem finding?_pins [DecidablePred core] (h : before.Pins core after) (m : Mention) :
    m.finding? after = (m.finding? before).filter fun f => ¬ core f.key := by
  by_cases hm : core m.key
  · rw [finding?_of_core h hm]
    cases hf : m.finding? before with
    | none => rfl
    | some f => simp [Option.filter, key_of_finding? hf, hm]
  · rw [finding?_of_not_core h hm]
    cases hf : m.finding? before with
    | none => rfl
    | some f => simp [Option.filter, key_of_finding? hf, hm]

/-- A construct that is still reported is reported as before, and under a key that is not pinned. A
pinned key may have been put in before the key that decided until now; then the construct is passed
over. -/
theorem firstFinding?_pins (h : before.Pins core after) (ms : List Mention) :
    firstFinding? after ms = none ∨
      ∃ f, firstFinding? after ms = some f ∧ firstFinding? before ms = some f ∧ ¬ core f.key := by
  induction ms with
  | nil => exact .inl rfl
  | cons m rest ih =>
    by_cases hm : core m.key
    · left
      obtain ⟨e, he, -⟩ := h.widely m.key hm
      simp only [firstFinding?, he, Option.isSome_some, if_true]
      exact finding?_of_core h hm
    · simp only [firstFinding?, h.kept m.key hm, finding?_of_not_core h hm]
      split
      · cases hf : m.finding? before with
        | none => exact .inl rfl
        | some f => exact .inr ⟨f, rfl, rfl, by rw [key_of_finding? hf]; exact hm⟩
      · exact ih

end Mention

end WebBaseline
