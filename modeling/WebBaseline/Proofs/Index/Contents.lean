import WebBaseline.Index.Build
import WebBaseline.Proofs.Index.Table
import WebBaseline.Proofs.Text.Blank

/-! What the index of a dataset holds.

The markup paths of the accepted records derive keys (`derivedPairs`), their documentation pages name
keys (`pagePairs`), and the script paths derive script keys (`scriptPairs`). Where pairs collide, the
last derived one wins, any derived one beats a page, and of the pages the first one wins (`base?`). The
core properties are then widely available, whatever the dataset says of them (`pinnedEntry`).

`build_contents` says that this is all: it gives the entry under every key of both tables, for every
dataset, compatibility table and list of core properties, and each table lists a key once. -/
namespace WebBaseline.Index

/-! ### What the records claim -/

/-- The keys that the markup paths of the records derive, each with its record's entry, in order. -/
def derivedPairs (records : List Feature.Record) : List (Text × Entry) :=
  records.flatMap fun r => (r.paths.filter (!Feature.isScriptPath ·)).flatMap fun path =>
    (Feature.markupKeys path).map (·, Entry.ofRecord r)

/-- The keys that the pages of the markup paths name, in order. -/
def pagePairs (records : List Feature.Record) : List (Text × Entry) :=
  records.flatMap fun r => (r.paths.filter (!Feature.isScriptPath ·)).filterMap fun path =>
    (Feature.pageKey path (Entry.ofRecord r).url).map (·, Entry.ofRecord r)

/-- The keys that the script paths derive, in order. -/
def scriptPairs (records : List Feature.Record) : List (Text × Entry) :=
  records.flatMap fun r => (r.paths.filter (Feature.isScriptPath ·)).flatMap fun path =>
    (Feature.scriptKeys path).map (·, Entry.ofRecord r)

/-- The markup entry of a key before core properties are pinned: the last derived one, or else the
first one named by a page. -/
def base? (records : List Feature.Record) (k : Text) : Option Entry :=
  match (Table.valuesOf (derivedPairs records) k).getLast? with
  | some entry => some entry
  | none => (Table.valuesOf (pagePairs records) k).head?

theorem flatMap_ite {α β : Type} (p : α → Bool) (f : α → List β) (l : List α) :
    l.flatMap (fun a => if p a then f a else []) = (l.filter p).flatMap f := by
  induction l with
  | nil => rfl
  | cons a rest ih => cases h : p a <;> simp [h, ih]

theorem markupClaims_claims (records : List Feature.Record) :
    markupClaims (claims records) = derivedPairs records := by
  unfold markupClaims claims derivedPairs
  rw [List.flatMap_assoc]
  congr 1
  funext r
  rw [← flatMap_ite, List.flatMap_map]
  congr 1
  funext path
  cases h : Feature.isScriptPath path <;> simp [h]

theorem pageClaims_claims (records : List Feature.Record) :
    pageClaims (claims records) = pagePairs records := by
  unfold pageClaims claims pagePairs
  rw [List.filterMap_flatMap]
  congr 1
  funext r
  rw [List.filterMap_map, List.filterMap_filter]
  congr 1
  funext path
  cases h : Feature.isScriptPath path <;> simp [h]

theorem scriptClaims_claims (records : List Feature.Record) :
    scriptClaims (claims records) = scriptPairs records := by
  unfold scriptClaims claims scriptPairs
  rw [List.flatMap_assoc]
  congr 1
  funext r
  rw [← flatMap_ite, List.flatMap_map]

/-! ### Core properties -/

/-- Whether `k` names a core property: it is one of the listed names without blanks around it, in lower
case, and it is not empty. -/
def IsCore (core : List Text) (k : Text) : Prop :=
  k ≠ [] ∧ ∃ raw ∈ core, Text.lower (Text.strip raw) = k

instance (core : List Text) (k : Text) : Decidable (IsCore core k) :=
  inferInstanceAs (Decidable (_ ∧ _))

/-- The entry of a core property `k`: the one it has if that is widely available, the one it has with
the status and the page replaced, or one of its own. -/
def pinnedEntry (k : Text) : Option Entry → Entry
  | some entry =>
    if entry.status = .widely then entry
    else { entry with status := .widely, url := some (Feature.cssPage k) }
  | none =>
    { id := k, name := k, status := .widely, url := some (Feature.cssPage k), description := none
      lowDate := none, highDate := none }

theorem pinnedEntry_widely (k : Text) (e : Option Entry) : (pinnedEntry k e).status = .widely := by
  cases e with
  | none => rfl
  | some entry =>
    simp only [pinnedEntry]
    split
    · assumption
    · rfl

/-- Pinning a second time changes nothing. -/
theorem pinnedEntry_pinnedEntry (k : Text) (e : Option Entry) :
    pinnedEntry k (some (pinnedEntry k e)) = pinnedEntry k e :=
  if_pos (pinnedEntry_widely k e)

theorem get?_pin (markup : Table Entry) (name k : Text) :
    (pin markup name).get? k =
      if name = k then some (pinnedEntry k (markup.get? k)) else markup.get? k := by
  unfold pin
  by_cases hk : name = k
  · subst hk
    cases h : markup.get? name with
    | none => simp [needsPin, Table.get?_insert, pinned, pinnedEntry, h]
    | some entry =>
      by_cases hw : entry.status = .widely <;>
        simp [needsPin, Table.get?_insert, Entry.isWidely, pinned, pinnedEntry, h, hw]
  · rw [if_neg hk]
    split
    · rw [Table.get?_insert, if_neg hk]
    · rfl

theorem get?_foldl_pin (names : List Text) (markup : Table Entry) (k : Text) :
    (names.foldl pin markup).get? k =
      if k ∈ names then some (pinnedEntry k (markup.get? k)) else markup.get? k := by
  induction names generalizing markup with
  | nil => rfl
  | cons name rest ih =>
    rw [List.foldl_cons, ih, get?_pin]
    by_cases hk : name = k
    · subst hk
      simp [pinnedEntry_pinnedEntry]
    · have hk' : ¬ k = name := fun h => hk h.symm
      simp [hk, hk']

theorem distinct_pin {markup : Table Entry} (h : markup.Distinct) (name : Text) :
    (pin markup name).Distinct := by
  unfold pin
  split
  · exact Table.distinct_insert h _ _
  · exact h

theorem distinct_foldl_pin (names : List Text) {markup : Table Entry} (h : markup.Distinct) :
    (names.foldl pin markup).Distinct := by
  induction names generalizing markup with
  | nil => exact h
  | cons name rest ih => exact ih (distinct_pin h name)

theorem mem_coreNames (core : List Text) (k : Text) : k ∈ coreNames core ↔ IsCore core k := by
  simp only [coreNames, IsCore, List.mem_filterMap, Option.map_eq_some_iff, Text.stripped?_eq_some_iff]
  constructor
  · rintro ⟨raw, hraw, name, ⟨rfl, hne⟩, rfl⟩
    exact ⟨fun h => hne ((Text.lower_eq_nil_iff _).mp h), raw, hraw, rfl⟩
  · rintro ⟨hne, raw, hraw, rfl⟩
    exact ⟨raw, hraw, _, ⟨rfl, fun h => hne ((Text.lower_eq_nil_iff _).mpr h)⟩, rfl⟩

/-! ### The index -/

theorem get?_ofRecords_markup (records : List Feature.Record) (core : List Text) (k : Text) :
    (ofRecords records core).markup.get? k =
      if IsCore core k then some (pinnedEntry k (base? records k)) else base? records k := by
  have filled : (Table.insertAllNew (Table.insertAll [] (derivedPairs records))
      (pagePairs records)).get? k = base? records k := by
    rw [Table.get?_insertAllNew, Table.get?_insertAll, base?]
    cases (Table.valuesOf (derivedPairs records) k).getLast? <;> rfl
  simp only [ofRecords, markupClaims_claims, pageClaims_claims, get?_foldl_pin, mem_coreNames, filled]

theorem get?_ofRecords_script (records : List Feature.Record) (core : List Text) (k : Text) :
    (ofRecords records core).script.get? k = (Table.valuesOf (scriptPairs records) k).getLast? := by
  simp only [ofRecords, scriptClaims_claims, Table.get?_insertAll, Table.get?_nil, Option.or_none]

theorem valuesOf_scriptPairs_ne_nil_iff {records : List Feature.Record} {k : Text} :
    Table.valuesOf (scriptPairs records) k ≠ [] ↔
      ∃ r ∈ records, ∃ path ∈ r.paths, Feature.isScriptPath path ∧ k ∈ Feature.scriptKeys path := by
  rw [Table.valuesOf_ne_nil_iff]
  simp only [scriptPairs, List.mem_flatMap, List.mem_filter, List.mem_map]
  constructor
  · rintro ⟨row, ⟨r, hr, path, ⟨hpath, hscript⟩, key, hkey, rfl⟩, rfl⟩
    exact ⟨r, hr, path, hpath, hscript, hkey⟩
  · rintro ⟨r, hr, path, hpath, hscript, hkey⟩
    exact ⟨(k, Entry.ofRecord r), ⟨r, hr, path, ⟨hpath, hscript⟩, k, hkey, rfl⟩, rfl⟩

/-- The script table knows the keys that the script paths derive. -/
theorem isSome_get?_script_iff (records : List Feature.Record) (core : List Text) (k : Text) :
    ((ofRecords records core).script.get? k).isSome ↔
      ∃ r ∈ records, ∃ path ∈ r.paths, Feature.isScriptPath path ∧ k ∈ Feature.scriptKeys path := by
  rw [get?_ofRecords_script, List.getLast?_isSome, valuesOf_scriptPairs_ne_nil_iff]

theorem distinct_ofRecords (records : List Feature.Record) (core : List Text) :
    (ofRecords records core).markup.Distinct ∧ (ofRecords records core).script.Distinct := by
  have empty : Table.Distinct ([] : Table Entry) := List.nodup_nil
  exact ⟨distinct_foldl_pin _ (Table.distinct_insertAllNew (Table.distinct_insertAll empty _) _),
    Table.distinct_insertAll empty _⟩

/-- **The contents of a built index, key by key.** -/
theorem build_contents (render : Feature.Renderer) (table : Json) (dataset : Feature.Dataset)
    (core : List Text) :
    let records := Feature.records render table dataset
    let index := build render table dataset core
    (∀ k, index.markup.get? k =
      if IsCore core k then some (pinnedEntry k (base? records k)) else base? records k) ∧
    (∀ k, index.script.get? k = (Table.valuesOf (scriptPairs records) k).getLast?) ∧
    index.markup.Distinct ∧ index.script.Distinct :=
  ⟨fun k => get?_ofRecords_markup _ core k, fun k => get?_ofRecords_script _ core k,
    distinct_ofRecords _ core⟩

end WebBaseline.Index
