import WebBaseline.Feature.Record
import WebBaseline.Proofs.Feature.ScriptKey
import WebBaseline.Proofs.Scan.Canonical

/-! The keys of a markup path.

The markup keys of a path are its lower-case parts with marks between them, and a page names a key in
lower case. So every markup key that a record claims is a text that is not empty, that lower-casing leaves
as it is and that has no full stop (`IsMarkupKey`, `Record.ClaimsMarkup.isMarkupKey`). A script path gives
no markup keys. -/
namespace WebBaseline.Feature

/-- A markup key: not empty, in lower case, without full stops. -/
structure IsMarkupKey (k : Text) : Prop where
  ne_nil : k ≠ []
  low : ∀ c ∈ k, Text.IsLow c
  undotted : '.' ∉ k

theorem IsMarkupKey.append {a b : Text} (ha : IsMarkupKey a) (hb : IsMarkupKey b) :
    IsMarkupKey (a ++ b) where
  ne_nil := List.append_ne_nil_of_left_ne_nil ha.ne_nil b
  low := List.forall_mem_append.mpr ⟨ha.low, hb.low⟩
  undotted := fun h => (List.mem_append.mp h).elim ha.undotted hb.undotted

theorem isMarkupKey_lower {s : Text} (hne : s ≠ []) (hdot : '.' ∉ s) : IsMarkupKey (Text.lower s) where
  ne_nil := fun hnil => hne ((Text.lower_eq_nil_iff s).mp hnil)
  low := fun _ => Text.isLow_of_mem_lower
  undotted := fun h => hdot (Text.dot_mem_lower_iff.mp h)

/-! ### Paths -/

theorem isMarkupKey_of_canonical {ps : List Text} {k : Text} {sample : Sample}
    (h : Canonical ps k sample) (hps : ∀ part ∈ ps, IsMarkupKey part) : IsMarkupKey k := by
  have hcolon : IsMarkupKey ":" := ⟨by decide, Text.forall_mem_of_all (by decide), by decide⟩
  have hcolons : IsMarkupKey "::" := hcolon.append hcolon
  have hat : IsMarkupKey "@" := ⟨by decide, Text.forall_mem_of_all (by decide), by decide⟩
  cases h with
  | property => exact hps k (by simp)
  | propertyValue p v => exact ((hps p (by simp)).append hcolons).append (hps v (by simp))
  | pseudoClass x => exact hcolon.append (hps x (by simp))
  | pseudoElement x => exact hcolons.append (hps x (by simp))
  | atRule x => exact hat.append (hps x (by simp))
  | element => exact hps k (by simp)
  | attributeName t a => exact ((hps t (by simp)).append hat).append (hps a (by simp))
  | attributeValue t a v =>
    have hname := ((hps t (by simp)).append hat).append (hps a (by simp))
    exact (hname.append hcolons).append (hps v (by simp))
  | globalAttribute => exact hps k (by simp)

theorem isMarkupKey_of_mem_markupKeys {path k : Text} (h : k ∈ markupKeys path) : IsMarkupKey k := by
  obtain ⟨sample, hsample⟩ := exists_canonical _ k h
  refine isMarkupKey_of_canonical hsample fun part hpart => ?_
  obtain ⟨raw, hraw, rfl⟩ := List.mem_map.mp hpart
  obtain ⟨hne, hfree⟩ := of_mem_parts hraw
  exact isMarkupKey_lower hne fun hdot => absurd (hfree '.' hdot) (by decide)

/-- A script path has `api` as its first part, if it has parts at all. -/
theorem parts_of_isScriptPath {path : Text} (h : isScriptPath path = true) :
    parts path = [] ∨ ∃ rest, parts path = ("api" : Text) :: rest := by
  obtain ⟨rest, rfl⟩ := Text.startsWith_iff.mp h
  have htrimmed : Text.IsTrimmed "api." :=
    Text.isTrimmed_of_forall (Text.forall_mem_of_all (by decide))
  have hpieces : (Text.strip ("api." ++ rest)).splitOn '.' =
      ("api" : Text) :: (Text.stripRight rest).splitOn '.' := by
    rw [htrimmed.strip_append (by decide), splitOn_api]
  unfold parts
  simp only [hpieces]
  split
  · exact .inl rfl
  · exact .inr ⟨_, rfl⟩

theorem markupKeys_of_isScriptPath {path : Text} (h : isScriptPath path = true) :
    markupKeys path = [] := by
  have hapi : Text.lower "api" = "api" := by decide
  unfold markupKeys
  rcases parts_of_isScriptPath h with hparts | ⟨rest, hparts⟩
  · rw [hparts]
    rfl
  · rw [hparts, List.map_cons, hapi]
    match rest.map Text.lower with
    | [] | [_] => rfl
    | category :: name :: rest =>
      unfold markupKeysOf
      simp

/-! ### Pages -/

/-- The name of a property in an address: a small letter, with or without a hyphen before it, and then
small letters, digits and hyphens. -/
def IsPropertyName (t : Text) : Prop :=
  ∃ sign first rest, t = sign ++ first :: rest ∧ (sign = [] ∨ sign = ['-']) ∧
    ('a' ≤ first ∧ first ≤ 'z') ∧ ∀ c ∈ rest, 'a' ≤ c ∧ c ≤ 'z' ∨ '0' ≤ c ∧ c ≤ '9' ∨ c = '-'

theorem isPageName_iff {t : Text} : isPageName t = true ↔ IsPropertyName t := by
  have hbody : ∀ (first : Char) (rest : Text), (('a' ≤ first && first ≤ 'z') &&
      rest.all fun d => ('a' ≤ d && d ≤ 'z') || Text.isDigit d || d == '-') = true ↔
      ('a' ≤ first ∧ first ≤ 'z') ∧ ∀ c ∈ rest, 'a' ≤ c ∧ c ≤ 'z' ∨ '0' ≤ c ∧ c ≤ '9' ∨ c = '-' := by
    intro first rest
    simp [Text.isDigit, or_assoc]
  unfold isPageName IsPropertyName
  constructor
  · intro h
    split at h
    · rename_i rest
      cases rest with
      | nil => cases h
      | cons first rest => exact ⟨['-'], first, rest, rfl, .inr rfl, (hbody first rest).mp h⟩
    · cases t with
      | nil => cases h
      | cons first rest => exact ⟨[], first, rest, rfl, .inl rfl, (hbody first rest).mp h⟩
  · rintro ⟨sign, first, rest, rfl, rfl | rfl, h⟩
    · have hhyphen : first ≠ '-' := by
        rintro rfl
        exact absurd h.1.1 (by decide)
      simpa [hhyphen] using (hbody first rest).mpr h
    · exact (hbody first rest).mpr h

instance : DecidablePred IsPropertyName :=
  fun _ => decidable_of_iff _ isPageName_iff

theorem IsPropertyName.undotted {t : Text} (h : IsPropertyName t) : '.' ∉ t := by
  obtain ⟨sign, first, rest, rfl, hsign, hfirst, hrest⟩ := h
  have hdot : ¬ ('a' ≤ '.' ∧ '.' ≤ 'z') := by decide
  simp only [List.mem_append, List.mem_cons, not_or]
  refine ⟨?_, fun he => hdot (he ▸ hfirst), fun hmem => absurd (hrest '.' hmem) (by decide)⟩
  rcases hsign with rfl | rfl <;> decide

theorem isMarkupKey_of_pageKey {path : Text} {url : Option Text} {k : Text}
    (h : pageKey path url = some k) : IsMarkupKey k := by
  unfold pageKey at h
  split at h
  · split at h
    · cases h
    · simp only at h
      split at h
      · rename_i hname
        cases h
        have hproperty := isPageName_iff.mp hname
        refine ⟨?_, fun _ => Text.isLow_of_mem_lower, hproperty.undotted⟩
        obtain ⟨sign, first, rest, heq, -⟩ := hproperty
        exact heq ▸ List.append_ne_nil_of_right_ne_nil sign (List.cons_ne_nil first rest)
      · cases h
  · cases h

theorem pageKey_of_isScriptPath {path : Text} (h : isScriptPath path = true) (url : Option Text) :
    pageKey path url = none := by
  obtain ⟨rest, rfl⟩ := Text.startsWith_iff.mp h
  exact if_neg Bool.false_ne_true

/-- A path that gives a markup key is no script path. -/
theorem isScriptPath_eq_false {path k : Text} (url : Option Text)
    (h : k ∈ markupKeys path ∨ pageKey path url = some k) : isScriptPath path = false := by
  apply Bool.eq_false_iff.mpr
  intro hscript
  rcases h with hk | hk
  · rw [markupKeys_of_isScriptPath hscript] at hk
    cases hk
  · rw [pageKey_of_isScriptPath hscript] at hk
    cases hk

/-! ### Records -/

/-- The keys that a record gives its entry in the markup table. -/
def Record.ClaimsMarkup (r : Record) (k : Text) : Prop :=
  ∃ path ∈ r.paths, k ∈ markupKeys path ∨ pageKey path r.url = some k

/-- The keys that a record gives its entry in the script table. -/
def Record.ClaimsScript (r : Record) (k : Text) : Prop :=
  ∃ path ∈ r.paths, k ∈ scriptKeys path

instance (r : Record) (k : Text) : Decidable (r.ClaimsMarkup k) :=
  inferInstanceAs (Decidable (∃ path ∈ r.paths, _))

instance (r : Record) (k : Text) : Decidable (r.ClaimsScript k) :=
  inferInstanceAs (Decidable (∃ path ∈ r.paths, _))

theorem Record.ClaimsMarkup.isMarkupKey {r : Record} {k : Text} (h : r.ClaimsMarkup k) :
    IsMarkupKey k := by
  obtain ⟨path, -, hk | hk⟩ := h
  · exact isMarkupKey_of_mem_markupKeys hk
  · exact isMarkupKey_of_pageKey hk

end WebBaseline.Feature
