import Mathlib.Data.List.Infix
import Mathlib.Data.List.TakeWhile
import WebBaseline.Proofs.Text.Pieces
import WebBaseline.Proofs.Text.Search
import WebBaseline.Proofs.Text.Slice
import WebBaseline.Text.Blank

/-! Fields of a text, and words in them.

The fields of a text are its maximal runs of characters that are no separators, all of them and in order
(`runs_placedFields`). A word without separators that stands in a text stands in one of the fields, and a
search ends in the first one that has it (`find?_piece`). That field need not be the word:
`isField_iff_of_find?` says when it is. -/
namespace WebBaseline.Text

variable {sep : Char → Bool} {a s w : Text} {c : Char}

/-! ### Cutting at a separator -/

theorem fields_free (h : ∀ x ∈ s, sep x = false) (hs : s ≠ []) : fields sep s = [s] := by
  simp [fields, splitBy_free h, hs]

theorem fields_cut (hc : sep c = true) (a s : Text) :
    fields sep (a ++ c :: s) = fields sep a ++ fields sep s := by
  unfold fields
  induction a using pieceInduction sep with
  | last a h => rw [splitBy_piece h hc, splitBy_free h, ← List.singleton_append, List.filter_append]
  | cut b d a h hd ih =>
    rw [List.append_assoc, List.cons_append, splitBy_piece h hd, splitBy_piece h hd, List.filter_cons,
      List.filter_cons, ih]
    split <;> rfl

theorem fields_of_separators (h : ∀ x ∈ s, sep x = true) : fields sep s = [] := by
  induction s with
  | nil => rfl
  | cons c s ih =>
    have hcut := fields_cut (h c (List.mem_cons_self ..)) [] s
    rw [List.nil_append, ih fun x hx => h x (List.mem_cons_of_mem c hx)] at hcut
    exact hcut

theorem fields_separators_append (h : ∀ x ∈ a, sep x = true) (s : Text) :
    fields sep (a ++ s) = fields sep s := by
  induction a with
  | nil => rfl
  | cons c a ih =>
    have hcut := fields_cut (h c (List.mem_cons_self ..)) [] (a ++ s)
    rw [List.nil_append, ih fun x hx => h x (List.mem_cons_of_mem c hx)] at hcut
    exact hcut

theorem fields_append_separators (h : ∀ x ∈ a, sep x = true) (s : Text) :
    fields sep (s ++ a) = fields sep s := by
  cases a with
  | nil => rw [List.append_nil]
  | cons c a =>
    rw [fields_cut (h c (List.mem_cons_self ..)),
      fields_of_separators fun x hx => h x (List.mem_cons_of_mem c hx), List.append_nil]

/-- Blanks at the ends do not matter where blanks are separators. -/
theorem fields_strip (h : ∀ c, isBlank c = true → sep c = true) (s : Text) :
    fields sep (strip s) = fields sep s := by
  have hleft := List.takeWhile_append_dropWhile (p := isBlank) (l := s)
  have hright := List.takeWhile_append_dropWhile (p := isBlank) (l := (stripLeft s).reverse)
  have hstripped : strip s ++ ((stripLeft s).reverse.takeWhile isBlank).reverse = stripLeft s := by
    rw [strip, stripRight, ← List.reverse_append, hright, List.reverse_reverse]
  have hblanks : ∀ t : Text, ∀ x ∈ t.takeWhile isBlank, sep x = true :=
    fun t x hx => h x (List.mem_takeWhile_imp hx)
  calc fields sep (strip s)
      = fields sep (strip s ++ ((stripLeft s).reverse.takeWhile isBlank).reverse) :=
        (fields_append_separators (fun x hx => hblanks _ x (List.mem_reverse.mp hx)) _).symm
    _ = fields sep (s.takeWhile isBlank ++ stripLeft s) := by
        rw [hstripped, fields_separators_append (hblanks s)]
    _ = fields sep s := by rw [stripLeft, hleft]

/-! ### Words -/

/-- A word without the separator ends before it. -/
theorem prefix_piece_iff (hc : c ∉ w) (a s : Text) : w <+: a ++ c :: s ↔ w <+: a := by
  constructor
  · intro h
    by_cases hlen : w.length ≤ a.length
    · exact List.prefix_of_prefix_length_le h (List.prefix_append ..) hlen
    · have hlead : a ++ [c] <+: a ++ c :: s := ⟨s, by simp⟩
      have hword := List.prefix_of_prefix_length_le hlead h (by simp; omega)
      exact absurd (hword.subset (by simp)) hc
  · intro h
    exact h.trans (List.prefix_append ..)

/-- A search goes through the pieces of a text one by one. -/
theorem find?_piece (hc : c ∉ w) (a s : Text) :
    find? w (a ++ c :: s) = (find? w a).or ((find? w s).map (a.length + 1 + ·)) := by
  have hstart : ∀ a, startsWith (a ++ c :: s) w = startsWith a w := fun a => by
    rw [Bool.eq_iff_iff, startsWith_eq_true_iff, startsWith_eq_true_iff, prefix_piece_iff hc]
  induction a with
  | nil =>
    have hnil : startsWith (c :: s) w = w.isEmpty := by
      rw [← List.nil_append (c :: s), hstart]
      cases w <;> rfl
    simp only [List.nil_append, find?, hnil]
    split
    · rfl
    · simp [Nat.add_comm]
  | cons b a ih =>
    rw [List.cons_append, find?, ← List.cons_append, hstart, find?, ih]
    split
    · rfl
    · cases find? w a with
      | some i => rfl
      | none => simp [Option.map_map, Function.comp_def, Nat.add_right_comm]

theorem find?_eq_none_iff (hw : w ≠ []) : find? w s = none ↔ ¬ w <:+: s := by
  rw [← cutAt?_eq_none_iff hw, cutAt?, Option.map_eq_none_iff]

/-- What is found stands nowhere before. -/
theorem not_prefix_of_find? {i j : Nat} (h : find? w s = some i) (hj : j < i) : ¬ w <+: s.drop j := by
  induction s generalizing i j with
  | nil =>
    unfold find? at h
    split at h
    · cases h
      exact absurd hj (Nat.not_lt_zero j)
    · cases h
  | cons c s ih =>
    unfold find? at h
    split at h
    · cases h
      exact absurd hj (Nat.not_lt_zero j)
    · rename_i hstart
      obtain ⟨i, hi, rfl⟩ := Option.map_eq_some_iff.mp h
      cases j with
      | zero => exact fun hw => hstart (startsWith_eq_true_iff.mpr hw)
      | succ j => exact ih hi (Nat.lt_of_succ_lt_succ hj)

theorem prefix_of_find? {i : Nat} (h : find? w s = some i) : w <+: s.drop i := by
  obtain ⟨before, rest, rfl, rfl⟩ := exists_of_find? h
  rw [List.drop_left]
  exact List.prefix_append ..

theorem infix_of_find? {i : Nat} (h : find? w s = some i) : w <:+: s := by
  obtain ⟨before, rest, rfl, -⟩ := exists_of_find? h
  exact ⟨before, rest, by simp⟩

/-! ### Whole fields -/

/-- The characters directly before and behind the stretch are separators, if there are any. -/
structure IsField (sep : Char → Bool) (s : Text) (start stop : Nat) : Prop where
  before : ∀ o, start = o + 1 → ∀ c ∈ s[o]?, sep c = true
  behind : ∀ c ∈ s[stop]?, sep c = true

/-- A word in a run without separators is a whole field if it is the run. -/
theorem isField_run_iff (ha : ∀ x ∈ a, sep x = false) {t : Text} (ht : ∀ c ∈ t.head?, sep c = true)
    (hw : w ≠ []) {i : Nat} (h : w <+: a.drop i) : IsField sep (a ++ t) i (i + w.length) ↔ a = w := by
  have hle := add_length_le_of_prefix h hw
  have hpos := List.length_pos_iff.mpr hw
  constructor
  · intro hfield
    have hstart : i = 0 := by
      cases i with
      | zero => rfl
      | succ o =>
        have ho : o < a.length := by omega
        have hsep := hfield.before o rfl a[o] (by simp [List.getElem?_append_left ho])
        rw [ha _ (List.getElem_mem ho)] at hsep
        cases hsep
    subst hstart
    rw [List.drop_zero] at h
    have hstop : a.length ≤ w.length := Nat.le_of_not_lt fun ho => by
      have hsep := hfield.behind a[w.length] (by simp [List.getElem?_append_left ho])
      rw [ha _ (List.getElem_mem ho)] at hsep
      cases hsep
    exact (h.eq_of_length_le hstop).symm
  · rintro rfl
    obtain rfl : i = 0 := by omega
    refine ⟨fun o ho => absurd ho (by omega), fun c hc => ht c ?_⟩
    rwa [Nat.zero_add, List.getElem?_append_right (Nat.le_refl _), Nat.sub_self,
      ← List.head?_eq_getElem?] at hc

theorem isField_behind_iff (hc : sep c = true) (a s : Text) (i j : Nat) :
    IsField sep (a ++ c :: s) (a.length + 1 + i) (a.length + 1 + j) ↔ IsField sep s i j := by
  have hget : ∀ k, (a ++ c :: s)[a.length + 1 + k]? = s[k]? := fun k => by
    rw [List.getElem?_append_right (by omega), show a.length + 1 + k - a.length = k + 1 by omega,
      List.getElem?_cons_succ]
  constructor
  · intro h
    refine ⟨fun o ho x hx => h.before (a.length + 1 + o) (by omega) x (by rwa [hget]), fun x hx => ?_⟩
    exact h.behind x (by rwa [hget])
  · intro h
    refine ⟨fun o ho x hx => ?_, fun x hx => h.behind x (by rwa [hget] at hx)⟩
    cases i with
    | zero =>
      obtain rfl : o = a.length := by omega
      simp only [List.getElem?_append_right (Nat.le_refl _), Nat.sub_self, List.getElem?_cons_zero,
        Option.mem_def, Option.some.injEq] at hx
      exact hx ▸ hc
    | succ k =>
      obtain rfl : o = a.length + 1 + k := by omega
      exact h.before k rfl x (by rwa [hget] at hx)

/-! ### Fields in their places -/

/-- A maximal run of characters that are no separators. -/
structure IsRun (sep : Char → Bool) (s : Text) (offset : Nat) (w : Text) : Prop where
  ne_nil : w ≠ []
  free : ∀ c ∈ w, sep c = false
  here : w <+: s.drop offset
  whole : IsField sep s offset (offset + w.length)

/-- The maximal runs of a text with their offsets: all of them, from left to right. -/
structure Runs (sep : Char → Bool) (s : Text) (runs : List (Nat × Text)) : Prop where
  ordered : runs.Pairwise fun a b => a.1 < b.1
  complete : ∀ o w, (o, w) ∈ runs ↔ IsRun sep s o w

/-- The pieces of a text with their offsets, one character between two of them. -/
def placedPieces (offset : Nat) : List Text → List (Nat × Text)
  | [] => []
  | piece :: rest => (offset, piece) :: placedPieces (offset + (piece.length + 1)) rest

/-- The fields with their offsets, in a text that starts at `offset`. -/
def placedFields (sep : Char → Bool) (offset : Nat) (s : Text) : List (Nat × Text) :=
  (placedPieces offset (splitBy sep s)).filter (!·.2.isEmpty)

theorem map_snd_placedPieces (offset : Nat) (pieces : List Text) :
    (placedPieces offset pieces).map Prod.snd = pieces := by
  induction pieces generalizing offset with
  | nil => rfl
  | cons piece rest ih => rw [placedPieces, List.map_cons, ih]

/-- Without the offsets, they are the fields. -/
theorem map_snd_placedFields (sep : Char → Bool) (offset : Nat) (s : Text) :
    (placedFields sep offset s).map Prod.snd = fields sep s := by
  rw [placedFields, fields, ← map_snd_placedPieces offset (splitBy sep s), List.filter_map,
    map_snd_placedPieces]
  rfl

theorem mem_placedFields_free (h : ∀ x ∈ s, sep x = false) {offset : Nat} {place : Nat × Text} :
    place ∈ placedFields sep offset s ↔ place = (offset, s) ∧ s ≠ [] := by
  rw [placedFields, splitBy_free h, placedPieces, placedPieces, List.mem_filter, List.mem_singleton]
  constructor
  · rintro ⟨rfl, hne⟩
    exact ⟨rfl, by simpa using hne⟩
  · rintro ⟨rfl, hne⟩
    exact ⟨rfl, by simpa using hne⟩

theorem placedFields_cut (ha : ∀ x ∈ a, sep x = false) (hc : sep c = true) (offset : Nat) (s : Text) :
    placedFields sep offset (a ++ c :: s) =
      placedFields sep offset a ++ placedFields sep (offset + (a.length + 1)) s := by
  unfold placedFields
  rw [splitBy_piece ha hc, splitBy_free ha, ← List.filter_append]
  rfl

/-- A run without separators has one run. -/
theorem isRun_free_iff (ha : ∀ x ∈ a, sep x = false) {t : Text} (ht : ∀ c ∈ t.head?, sep c = true)
    {o : Nat} (ho : o ≤ a.length) : IsRun sep (a ++ t) o w ↔ (o, w) = (0, a) ∧ a ≠ [] := by
  constructor
  · intro h
    have hin : w <+: a.drop o := by
      cases t with
      | nil => simpa using h.here
      | cons c t =>
        have hc : c ∉ w := fun hm => by
          have hfree := h.free c hm
          rw [ht c rfl] at hfree
          cases hfree
        have hhere := h.here
        rwa [List.drop_append_of_le_length ho, prefix_piece_iff hc] at hhere
    obtain rfl := (isField_run_iff ha ht h.ne_nil hin).mp h.whole
    have hlen := add_length_le_of_prefix hin h.ne_nil
    exact ⟨by rw [show o = 0 by omega], h.ne_nil⟩
  · rintro ⟨he, hne⟩
    cases he
    exact ⟨hne, ha, List.prefix_append .., (isField_run_iff ha ht hne (List.prefix_refl _)).mpr rfl⟩

theorem isRun_behind_iff (hc : sep c = true) (a s : Text) (o : Nat) :
    IsRun sep (a ++ c :: s) (a.length + 1 + o) w ↔ IsRun sep s o w := by
  have hdrop : (a ++ c :: s).drop (a.length + 1 + o) = s.drop o := by
    rw [Nat.add_assoc, List.drop_length_add_append, Nat.add_comm 1, List.drop_succ_cons]
  have hfield := isField_behind_iff hc a s o (o + w.length)
  rw [← Nat.add_assoc] at hfield
  constructor
  · intro h
    exact ⟨h.ne_nil, h.free, hdrop ▸ h.here, hfield.mp h.whole⟩
  · intro h
    exact ⟨h.ne_nil, h.free, hdrop ▸ h.here, hfield.mpr h.whole⟩

theorem mem_placedFields_iff {offset n : Nat} :
    (n, w) ∈ placedFields sep offset s ↔ ∃ o, n = offset + o ∧ IsRun sep s o w := by
  induction s using pieceInduction sep generalizing offset with
  | last s hs =>
    have hrun : ∀ o ≤ s.length, IsRun sep s o w ↔ (o, w) = (0, s) ∧ s ≠ [] := fun o ho => by
      simpa using isRun_free_iff hs (t := []) (by simp) ho
    rw [mem_placedFields_free hs]
    constructor
    · rintro ⟨he, hne⟩
      cases he
      exact ⟨0, rfl, (hrun 0 (Nat.zero_le _)).mpr ⟨rfl, hne⟩⟩
    · rintro ⟨o, rfl, h⟩
      have hlen := add_length_le_of_prefix h.here h.ne_nil
      obtain ⟨he, hne⟩ := (hrun o (by omega)).mp h
      cases he
      exact ⟨rfl, hne⟩
  | cut a c s ha hc ih =>
    have hsep : ∀ x ∈ (c :: s).head?, sep x = true := by simpa using hc
    rw [placedFields_cut ha hc, List.mem_append, mem_placedFields_free ha, ih]
    constructor
    · rintro (⟨he, hne⟩ | ⟨o, rfl, h⟩)
      · cases he
        exact ⟨0, rfl, (isRun_free_iff ha hsep (Nat.zero_le _)).mpr ⟨rfl, hne⟩⟩
      · exact ⟨a.length + 1 + o, by omega, (isRun_behind_iff hc a s o).mpr h⟩
    · rintro ⟨o, rfl, h⟩
      by_cases ho : o ≤ a.length
      · obtain ⟨he, hne⟩ := (isRun_free_iff ha hsep ho).mp h
        cases he
        exact .inl ⟨rfl, hne⟩
      · obtain ⟨k, rfl⟩ := Nat.exists_eq_add_of_lt (Nat.lt_of_not_le ho)
        rw [Nat.add_right_comm] at h
        exact .inr ⟨k, by omega, (isRun_behind_iff hc a s k).mp h⟩

theorem pairwise_placedFields (sep : Char → Bool) (offset : Nat) (s : Text) :
    (placedFields sep offset s).Pairwise fun a b => a.1 < b.1 := by
  induction s using pieceInduction sep generalizing offset with
  | last s hs =>
    rw [placedFields, splitBy_free hs]
    exact (List.pairwise_singleton _ _).filter _
  | cut a c s ha hc ih =>
    rw [placedFields_cut ha hc, List.pairwise_append]
    refine ⟨?_, ih _, fun x hx y hy => ?_⟩
    · rw [placedFields, splitBy_free ha]
      exact (List.pairwise_singleton _ _).filter _
    · obtain ⟨rfl, -⟩ := (mem_placedFields_free ha).mp hx
      obtain ⟨o, hy, -⟩ := mem_placedFields_iff.mp hy
      simp only [hy]
      omega

namespace Runs

variable {front rest : List (Nat × Text)} {o : Nat}

theorem lt_of_mem_front (h : Runs sep s (front ++ (o, w) :: rest)) {place : Nat × Text}
    (hplace : place ∈ front) : place.1 < o :=
  (List.pairwise_append.mp h.ordered).2.2 place hplace (o, w) (List.mem_cons_self ..)

/-- A run further left is listed before. -/
theorem mem_front (h : Runs sep s (front ++ (o, w) :: rest)) {k : Nat} {v : Text} (hrun : IsRun sep s k v)
    (hk : k < o) : (k, v) ∈ front := by
  refine (List.mem_append.mp ((h.complete k v).mpr hrun)).resolve_right fun htail => ?_
  rcases List.mem_cons.mp htail with he | htail
  · cases he
    exact Nat.lt_irrefl _ hk
  · have hrest := (List.pairwise_append.mp h.ordered).2.1
    exact Nat.lt_asymm hk ((List.pairwise_cons.mp hrest).1 _ htail)

end Runs

/-- The fields of a text are its maximal runs. -/
theorem runs_placedFields (sep : Char → Bool) (s : Text) : Runs sep s (placedFields sep 0 s) where
  ordered := pairwise_placedFields sep 0 s
  complete := fun o w => by
    rw [mem_placedFields_iff]
    simp only [Nat.zero_add, exists_eq_left']

/-- A field stands somewhere in the text. -/
theorem exists_isField_of_mem_fields (h : w ∈ fields sep s) :
    ∃ i, w <+: s.drop i ∧ IsField sep s i (i + w.length) := by
  rw [← map_snd_placedFields sep 0 s] at h
  obtain ⟨⟨i, w⟩, hplace, rfl⟩ := List.mem_map.mp h
  have hrun := ((runs_placedFields sep s).complete i w).mp hplace
  exact ⟨i, hrun.here, hrun.whole⟩

/-! ### The search for a field -/

/-- A search finds a word as a whole field if the first field that has it is the word. -/
theorem isField_iff_of_find? (hfree : ∀ x ∈ w, sep x = false) (hw : w ≠ []) {i : Nat}
    (h : find? w s = some i) :
    IsField sep s i (i + w.length) ↔ (fields sep s).find? (fun t => w <:+: t) = some w := by
  induction s using pieceInduction sep generalizing i with
  | last s hs =>
    have hinside := infix_of_find? h
    have hne : s ≠ [] := fun he => hw (List.infix_nil.mp (he ▸ hinside))
    have hfield := isField_run_iff hs (t := []) (by simp) hw (prefix_of_find? h)
    rw [List.append_nil] at hfield
    rw [hfield, fields_free hs hne]
    simp [hinside]
  | cut a c s ha hc ih =>
    have hcw : c ∉ w := fun hm => by
      rw [hfree c hm] at hc
      cases hc
    rw [find?_piece hcw] at h
    rw [fields_cut hc]
    cases hfind : find? w a with
    | some k =>
      rw [hfind] at h
      cases h
      have hinside := infix_of_find? hfind
      have hne : a ≠ [] := fun he => hw (List.infix_nil.mp (he ▸ hinside))
      rw [isField_run_iff ha (by simpa using hc) hw (prefix_of_find? hfind), fields_free ha hne]
      simp [hinside]
    | none =>
      rw [hfind] at h
      obtain ⟨k, hk, rfl⟩ := Option.map_eq_some_iff.mp h
      have hnone := (find?_eq_none_iff hw).mp hfind
      have hskip : (fields sep a).find? (fun t => w <:+: t) = none := by
        by_cases hne : a = []
        · subst hne
          rfl
        · rw [fields_free ha hne]
          simp [hnone]
      rw [Nat.add_assoc (a.length + 1), isField_behind_iff hc, ih hk, List.find?_append, hskip, Option.none_or]

end WebBaseline.Text
