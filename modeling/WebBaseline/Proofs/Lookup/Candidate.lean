import Mathlib.Data.List.TakeWhile
import WebBaseline.Lookup
import WebBaseline.Proofs.Text.Blank

/-! The keys that are tried for a word.

A word is stripped. In lower case it is tried as a markup key, behind the property of the line if it is a value
there, and bare behind each kind of mark (`mem_markupCandidates`). If the markup table has none of these, the word
is tried as a script key as it stands (`resolve_eq_some_iff`, `resolve_eq_none_iff`). -/
namespace WebBaseline.Lookup

/-! ### Keys in a table -/

section Table

variable {table : Table Entry} {keys : List Text} {key : Text} {e : Entry}

theorem firstKnown_cons (h : table.get? key = some e) (rest : List Text) :
    firstKnown table (key :: rest) = some (key, e) := by
  simp [firstKnown, h]

theorem firstKnown_cons_of_none (h : table.get? key = none) (rest : List Text) :
    firstKnown table (key :: rest) = firstKnown table rest := by
  simp [firstKnown, h]

theorem firstKnown_singleton : firstKnown table [key] = (table.get? key).map (key, ·) := by
  cases h : table.get? key <;> simp [firstKnown, h]

theorem firstKnown_eq_none_iff : firstKnown table keys = none ↔ ∀ key ∈ keys, table.get? key = none := by
  simp [firstKnown, List.findSome?_eq_none_iff]

/-- A key is found if the table holds it and none that is tried before. -/
theorem firstKnown_eq_some_iff :
    firstKnown table keys = some (key, e) ↔ key ∈ keys ∧ table.get? key = some e ∧
      ∀ k ∈ keys.takeWhile (· ≠ key), table.get? k = none := by
  induction keys with
  | nil => simp [firstKnown]
  | cons k rest ih =>
    by_cases hk : k = key
    · subst hk
      cases hget : table.get? k with
      | none => simp [firstKnown_cons_of_none hget, ih, hget]
      | some e' => simp [firstKnown_cons hget]
    · rw [List.takeWhile_cons_of_pos (by simpa using hk), List.forall_mem_cons, List.mem_cons]
      cases hget : table.get? k with
      | none => simp [firstKnown_cons_of_none hget, ih, Ne.symm hk]
      | some e' => simp [firstKnown_cons hget, hk]

end Table

/-! ### Keys for a word -/

/-- A word without the marks before it. -/
def bare (word : Text) : Text :=
  word.dropWhile fun c => c == ':' || c == '@'

theorem bare_suffix (word : Text) : bare word <:+ word :=
  List.dropWhile_suffix _

/-- What a bare word is tried behind, in order. -/
def leads : List Text :=
  [":", "::", "@"]

section Keys

variable {key line k : Text}

/-- A word is tried behind the property of a line just if it is one of the value tokens there. -/
theorem valueKey?_eq_some_iff :
    valueKey? line key = some k ↔ ∃ d, Stylesheet.Declaration.parse? line = some d ∧
      (∃ t ∈ Stylesheet.valueTokens d.value, Text.lower t = key) ∧ k = Text.lower d.name ++ "::" ++ key := by
  unfold valueKey?
  cases Stylesheet.Declaration.parse? line with
  | none => simp
  | some d => simp [eq_comm (a := k)]

theorem markupCandidates_eq (key line : Text) :
    markupCandidates key line =
      key :: (valueKey? line key).toList ++ if (bare key).isEmpty then [] else leads.map (· ++ bare key) :=
  rfl

theorem mem_markupCandidates :
    k ∈ markupCandidates key line ↔
      k = key ∨ valueKey? line key = some k ∨ bare key ≠ [] ∧ ∃ lead ∈ leads, k = lead ++ bare key := by
  rw [markupCandidates_eq, List.mem_append, List.mem_cons, Option.mem_toList, or_assoc]
  by_cases hbare : bare key = []
  · simp [hbare]
  · rw [if_neg (by simpa using hbare)]
    simp [hbare, eq_comm]

end Keys

/-! ### What is found -/

section Found

variable {index : Index} {token line : Text}

theorem resolve_of_blank (h : Text.strip token = []) : resolve index token line = none := by
  simp [resolve, Text.stripped?, h]

theorem resolve_of_word (h : Text.strip token ≠ []) :
    resolve index token line =
      (firstKnown index.markup (markupCandidates (Text.lower (Text.strip token)) line)).or
        (firstKnown index.script [Text.strip token]) := by
  simp [resolve, Text.stripped?, h]

/-- The markup key of the word itself goes before all others. -/
theorem resolve_of_key (h : Text.strip token ≠ []) {e : Entry}
    (he : index.markup.get? (Text.lower (Text.strip token)) = some e) (line : Text) :
    resolve index token line = some (Text.lower (Text.strip token), e) := by
  rw [resolve_of_word h, markupCandidates_eq, List.cons_append, firstKnown_cons he, Option.some_or]

/-- Behind the property of the line a word is tried next. -/
theorem resolve_of_value (h : Text.strip token ≠ []) {k : Text} {e : Entry}
    (hkey : index.markup.get? (Text.lower (Text.strip token)) = none)
    (hk : valueKey? line (Text.lower (Text.strip token)) = some k) (he : index.markup.get? k = some e) :
    resolve index token line = some (k, e) := by
  rw [resolve_of_word h, markupCandidates_eq, hk, Option.toList_some, List.cons_append,
    firstKnown_cons_of_none hkey, List.singleton_append, firstKnown_cons he, Option.some_or]

theorem resolve_eq_some_iff {k : Text} {e : Entry} :
    resolve index token line = some (k, e) ↔ Text.strip token ≠ [] ∧
      let found := firstKnown index.markup (markupCandidates (Text.lower (Text.strip token)) line)
      (found = some (k, e) ∨ found = none ∧ k = Text.strip token ∧ index.script.get? k = some e) := by
  by_cases hblank : Text.strip token = []
  · simp [resolve_of_blank hblank, hblank]
  · rw [resolve_of_word hblank, Option.or_eq_some_iff, firstKnown_singleton]
    simp only [ne_eq, hblank, not_false_eq_true, true_and, Option.map_eq_some_iff, Prod.mk.injEq]
    apply or_congr_right
    apply and_congr_right
    intro _
    constructor
    · intro ⟨_, he, hk, heq⟩
      exact ⟨hk.symm, by rw [← hk, he, heq]⟩
    · intro ⟨hk, he⟩
      exact ⟨e, hk ▸ he, hk.symm, rfl⟩

/-- Of a line, only the declaration on it is used. -/
theorem resolve_congr {line' : Text}
    (h : Stylesheet.Declaration.parse? line = Stylesheet.Declaration.parse? line') :
    resolve index token line = resolve index token line' := by
  simp only [resolve, markupCandidates, valueKey?, h]

theorem resolve_eq_none_iff :
    resolve index token line = none ↔ Text.strip token = [] ∨
      (∀ k ∈ markupCandidates (Text.lower (Text.strip token)) line, index.markup.get? k = none) ∧
        index.script.get? (Text.strip token) = none := by
  by_cases hblank : Text.strip token = []
  · simp [resolve_of_blank hblank, hblank]
  · rw [resolve_of_word hblank, Option.or_eq_none_iff, firstKnown_eq_none_iff, firstKnown_eq_none_iff]
    simp [hblank]

end Found

end WebBaseline.Lookup
