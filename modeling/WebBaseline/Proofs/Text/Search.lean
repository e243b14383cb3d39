import WebBaseline.Text.Matches

/-! Where a search finds things.

`dropLead?`, `find?`, `cutAt?` and `Matches.all` read a text from the left. Each answer is stated as a
cut of the text: what stands before, what was found there, and the rest. -/
namespace WebBaseline.Text

/-! ### Leads -/

theorem dropLead?_eq_some_iff {lead s rest : Text} :
    dropLead? lead s = some rest ↔ s = lead ++ rest := by
  fun_induction dropLead? lead s with
  | case1 s => simp [eq_comm]
  | case2 a lead => simp
  | case3 a lead s ih => simpa using ih
  | case4 a lead b s h =>
    simp only [reduceCtorEq, List.cons_append, List.cons.injEq, false_iff, not_and]
    intro hb
    exact absurd hb.symm h

theorem startsWith_iff {s lead : Text} : startsWith s lead = true ↔ ∃ rest, s = lead ++ rest := by
  unfold startsWith
  rw [Option.isSome_iff_exists]
  exact exists_congr fun rest => dropLead?_eq_some_iff

theorem startsWith_eq_true_iff {s lead : Text} : startsWith s lead = true ↔ lead <+: s := by
  rw [startsWith_iff]
  exact exists_congr fun rest => eq_comm

theorem startsWith_append {s lead : Text} (h : lead.length ≤ s.length) (t : Text) :
    startsWith (s ++ t) lead = startsWith s lead := by
  rw [Bool.eq_iff_iff, startsWith_eq_true_iff, startsWith_eq_true_iff]
  constructor
  · intro hlead
    exact List.prefix_of_prefix_length_le hlead (List.prefix_append s t) h
  · intro hlead
    exact hlead.trans (List.prefix_append s t)

/-! ### Occurrences -/

/-- A found part stands behind as many characters as the search says. -/
theorem exists_of_find? {part s : Text} {i : Nat} (h : find? part s = some i) :
    ∃ before rest, s = before ++ (part ++ rest) ∧ before.length = i := by
  induction s generalizing i with
  | nil =>
    unfold find? at h
    split at h
    · rename_i hpart
      cases h
      exact ⟨[], [], by simpa using hpart, rfl⟩
    · cases h
  | cons c s ih =>
    unfold find? at h
    split at h
    · rename_i hstart
      cases h
      obtain ⟨rest, hrest⟩ := startsWith_iff.mp hstart
      exact ⟨[], rest, hrest, rfl⟩
    · obtain ⟨j, hj, rfl⟩ := Option.map_eq_some_iff.mp h
      obtain ⟨before, rest, hs, hlen⟩ := ih hj
      exact ⟨c :: before, rest, by rw [hs]; rfl, by rw [List.length_cons, hlen]⟩

theorem find?_of_startsWith {part s : Text} (h : startsWith s part = true) : find? part s = some 0 := by
  cases s with
  | nil =>
    obtain ⟨rest, hrest⟩ := startsWith_iff.mp h
    have hpart : part = [] := (List.append_eq_nil_iff.mp hrest.symm).1
    simp [find?, hpart]
  | cons c s => simp [find?, h]

theorem find?_run {a : Text} {c : Char} (h : c ∉ a) (s : Text) :
    find? [c] (a ++ c :: s) = some a.length := by
  induction a with
  | nil => exact find?_of_startsWith (startsWith_iff.mpr ⟨s, rfl⟩)
  | cons b a ih =>
    rw [List.mem_cons, not_or] at h
    have hb : ¬ startsWith (b :: (a ++ c :: s)) [c] = true := by
      rw [startsWith_eq_true_iff, List.cons_prefix_cons]
      exact fun hhead => h.1 hhead.1
    rw [List.cons_append, find?, if_neg hb, ih h.2]
    rfl

/-! ### Cuts -/

theorem cutAt?_cons (mark : Text) (c : Char) (s : Text) :
    cutAt? mark (c :: s) =
      if startsWith (c :: s) mark then some ([], (c :: s).drop mark.length)
      else (cutAt? mark s).map fun cut => (c :: cut.1, cut.2) := by
  unfold cutAt?
  rw [find?]
  split
  · simp
  · simp only [Option.map_map]
    congr 1
    funext i
    simp [Nat.add_right_comm]

/-- A text is what stands before the mark, the mark, and what stands behind it. -/
theorem append_of_cutAt? {mark s before behind : Text} (h : cutAt? mark s = some (before, behind)) :
    s = before ++ (mark ++ behind) := by
  obtain ⟨i, hi, hcut⟩ := Option.map_eq_some_iff.mp h
  obtain ⟨a, rest, rfl, rfl⟩ := exists_of_find? hi
  cases hcut
  simp [List.drop_append]

theorem length_lt_of_cutAt? {mark s before behind : Text} (h : cutAt? mark s = some (before, behind))
    (hmark : mark ≠ []) : behind.length < s.length := by
  have hpos := List.length_pos_iff.mpr hmark
  rw [append_of_cutAt? h, List.length_append, List.length_append]
  omega

/-- A cut stays where it is when the text goes on. -/
theorem cutAt?_append {mark s before behind : Text} (hmark : mark ≠ [])
    (h : cutAt? mark s = some (before, behind)) (t : Text) :
    cutAt? mark (s ++ t) = some (before, behind ++ t) := by
  induction s generalizing before with
  | nil => simp [cutAt?, find?, hmark] at h
  | cons c s ih =>
    have hlen := congrArg List.length (append_of_cutAt? h)
    have hle : mark.length ≤ (c :: s).length := by
      rw [hlen, List.length_append, List.length_append]
      omega
    rw [cutAt?_cons] at h
    rw [List.cons_append, cutAt?_cons, ← List.cons_append, startsWith_append hle]
    split at h
    · rename_i hstart
      rw [if_pos hstart]
      cases h
      rw [List.drop_append_of_le_length hle]
    · rename_i hstart
      rw [if_neg hstart]
      obtain ⟨⟨a, b⟩, hcut, heq⟩ := Option.map_eq_some_iff.mp h
      cases heq
      rw [ih hcut]
      rfl

theorem cutAt?_eq_none_iff {mark s : Text} (hmark : mark ≠ []) :
    cutAt? mark s = none ↔ ¬ mark <:+: s := by
  induction s with
  | nil => simp [cutAt?, find?, hmark]
  | cons c s ih =>
    rw [cutAt?_cons, List.infix_cons_iff, ← startsWith_eq_true_iff]
    split
    · rename_i h
      simp [h]
    · rename_i h
      rw [Option.map_eq_none_iff, ih]
      simp [h]

/-- There is no mark before the first one. -/
theorem cutAt?_before {mark s before behind : Text} (hmark : mark ≠ [])
    (h : cutAt? mark s = some (before, behind)) : cutAt? mark before = none := by
  induction s generalizing before with
  | nil => simp [cutAt?, find?, hmark] at h
  | cons c s ih =>
    rw [cutAt?_cons] at h
    split at h
    · cases h
      simp [cutAt?, find?, hmark]
    · rename_i hstart
      obtain ⟨⟨a, b⟩, hcut, heq⟩ := Option.map_eq_some_iff.mp h
      cases heq
      have hstart' : ¬ startsWith (c :: a) mark = true := by
        intro hlead
        apply hstart
        rw [startsWith_eq_true_iff] at hlead ⊢
        refine hlead.trans ⟨mark ++ b, ?_⟩
        rw [append_of_cutAt? hcut, List.cons_append]
      rw [cutAt?_cons, if_neg hstart', ih hcut]
      rfl

/-! ### Matches -/

/-- The construct in a text that stands `n` characters further on. -/
def Match.shift {α : Type} (n : Nat) (m : Match α) : Match α :=
  { m with start := n + m.start }

theorem Match.shift_zero {α : Type} (m : Match α) : m.shift 0 = m := by
  rw [shift, Nat.zero_add]

namespace Matches

variable {α : Type}

theorem allFrom_of_none {r : Recogniser α} {c : Char} {s : Text} (h : r (c :: s) = none)
    (offset : Nat) : allFrom r offset 0 (c :: s) = allFrom r (offset + 1) 0 s := by
  simp [allFrom, h]

theorem allFrom_of_some {r : Recogniser α} {s : Text} {n : Nat} {value : α} (hs : s ≠ [])
    (h : r s = some (n, value)) (offset : Nat) :
    allFrom r offset 0 s = ⟨offset, n, value⟩ :: allFrom r (offset + 1) (n - 1) s.tail := by
  cases s with
  | nil => exact absurd rfl hs
  | cons c s => simp [allFrom, h]

theorem allFrom_skip (r : Recogniser α) (offset : Nat) {skip : Nat} {s : Text}
    (h : skip ≤ s.length) : allFrom r offset skip s = allFrom r (offset + skip) 0 (s.drop skip) := by
  induction skip generalizing offset s with
  | zero => rfl
  | succ k ih =>
    cases s with
    | nil => cases h
    | cons c s =>
      rw [allFrom, if_pos (Nat.succ_pos k), Nat.add_sub_cancel, ih _ (Nat.le_of_succ_le_succ h),
        List.drop_succ_cons, Nat.add_right_comm, Nat.add_assoc]

/-- Behind a construct, the search goes on. -/
theorem allFrom_read {r : Recogniser α} {s : Text} {n : Nat} {value : α} (hpos : 0 < n)
    (hle : n ≤ s.length) (h : r s = some (n, value)) (offset : Nat) :
    allFrom r offset 0 s = ⟨offset, n, value⟩ :: allFrom r (offset + n) 0 (s.drop n) := by
  have hs : s ≠ [] := by
    rintro rfl
    exact absurd hle (Nat.not_le_of_lt hpos)
  have htail : n - 1 ≤ s.tail.length := by
    rw [List.length_tail]
    omega
  rw [allFrom_of_some hs h, allFrom_skip r _ htail, List.drop_tail, Nat.add_assoc,
    Nat.add_sub_cancel' hpos, Nat.sub_add_cancel hpos]

theorem exists_of_mem_allFrom {r : Recogniser α} {s : Text} {offset skip : Nat} {m : Match α}
    (h : m ∈ allFrom r offset skip s) :
    ∃ before rest, s = before ++ rest ∧ m.start = offset + before.length ∧
      r rest = some (m.length, m.value) := by
  induction s generalizing offset skip with
  | nil => cases h
  | cons c s ih =>
    -- A match further on is one of the text behind `c`.
    have later : ∀ {skip'}, m ∈ allFrom r (offset + 1) skip' s →
        ∃ before rest, c :: s = before ++ rest ∧ m.start = offset + before.length ∧
          r rest = some (m.length, m.value) := by
      intro skip' hm
      obtain ⟨before, rest, hs, hstart, hr⟩ := ih hm
      refine ⟨c :: before, rest, by rw [hs]; rfl, ?_, hr⟩
      rw [hstart, List.length_cons]
      omega
    unfold allFrom at h
    split at h
    · exact later h
    · split at h
      · exact later h
      · rename_i n value hr
        rcases List.mem_cons.mp h with rfl | h
        · exact ⟨[], c :: s, rfl, rfl, hr⟩
        · exact later h

/-- A match is what the recogniser reads at its start. -/
theorem exists_of_mem_all {r : Recogniser α} {s : Text} {m : Match α} (h : m ∈ all r s) :
    ∃ before rest, s = before ++ rest ∧ m.start = before.length ∧
      r rest = some (m.length, m.value) := by
  obtain ⟨before, rest, hs, hstart, hr⟩ := exists_of_mem_allFrom h
  exact ⟨before, rest, hs, by simpa using hstart, hr⟩

theorem exists_mem_allFrom {r : Recogniser α} (hpos : ∀ u n value, r u = some (n, value) → 0 < n) {s : Text}
    (offset : Nat) {skip o : Nat} (hskip : skip ≤ o) (ho : o < s.length) (hread : (r (s.drop o)).isSome) :
    ∃ m ∈ allFrom r offset skip s, m.start ≤ offset + o ∧ offset + o < m.stop := by
  induction s generalizing offset skip o with
  | nil => cases ho
  | cons c s ih =>
    -- A place further on is one of the text behind `c`.
    have later : ∀ k skip', o = k + 1 → skip' ≤ k →
        ∃ m ∈ allFrom r (offset + 1) skip' s, m.start ≤ offset + o ∧ offset + o < m.stop := by
      intro k skip' hk hskip'
      subst hk
      obtain ⟨m, hm, hstart, hstop⟩ := ih (offset + 1) hskip' (Nat.lt_of_succ_lt_succ ho) hread
      exact ⟨m, hm, by omega, by omega⟩
    unfold allFrom
    split
    · exact later (o - 1) _ (by omega) (by omega)
    · cases hr : r (c :: s) with
      | none =>
        have hne : o ≠ 0 := by
          intro hzero
          rw [hzero, List.drop_zero, hr] at hread
          cases hread
        exact later (o - 1) 0 (by omega) (Nat.zero_le _)
      | some found =>
        obtain ⟨n, value⟩ := found
        have hn := hpos _ _ _ hr
        by_cases hlt : o < n
        · refine ⟨_, List.mem_cons_self .., Nat.le_add_right offset o, ?_⟩
          simp only [Match.stop]
          omega
        · obtain ⟨m, hm, hcover⟩ := later (o - 1) (n - 1) (by omega) (by omega)
          exact ⟨m, List.mem_cons_of_mem _ hm, hcover⟩

/-- Where a construct could be read, one that was read reaches. -/
theorem exists_mem_all {r : Recogniser α} (hpos : ∀ u n value, r u = some (n, value) → 0 < n) {s : Text}
    {o : Nat} (ho : o < s.length) (hread : (r (s.drop o)).isSome) :
    ∃ m ∈ all r s, m.start ≤ o ∧ o < m.stop := by
  have hcover := exists_mem_allFrom hpos 0 (Nat.zero_le o) ho hread
  rwa [Nat.zero_add] at hcover

theorem le_start_of_mem_allFrom {r : Recogniser α} {s : Text} {offset skip : Nat} {m : Match α}
    (h : m ∈ allFrom r offset skip s) : offset + skip ≤ m.start := by
  induction s generalizing offset skip with
  | nil => cases h
  | cons c s ih =>
    unfold allFrom at h
    split at h
    · have := ih h
      omega
    · split at h
      · have := ih h
        omega
      · rcases List.mem_cons.mp h with rfl | h
        · show offset + skip ≤ offset
          omega
        · have := ih h
          omega

theorem pairwise_allFrom (r : Recogniser α) (offset skip : Nat) (s : Text) :
    (allFrom r offset skip s).Pairwise fun m n => m.stop ≤ n.start := by
  induction s generalizing offset skip with
  | nil => exact .nil
  | cons c s ih =>
    unfold allFrom
    split
    · exact ih ..
    · split
      · exact ih ..
      · refine List.pairwise_cons.mpr ⟨fun m hm => ?_, ih ..⟩
        have hstart := le_start_of_mem_allFrom hm
        simp only [Match.stop]
        omega

/-- Where a text stands, its matches stand. -/
theorem allFrom_shift (r : Recogniser α) (n offset skip : Nat) (s : Text) :
    allFrom r (n + offset) skip s = (allFrom r offset skip s).map (Match.shift n) := by
  induction s generalizing offset skip with
  | nil => rfl
  | cons c s ih =>
    unfold allFrom
    rw [Nat.add_assoc]
    split
    · exact ih ..
    · split
      · exact ih ..
      · rw [List.map_cons, ih]
        rfl

/-- The recogniser reads no further than the text goes, at none of its places. -/
structure Closes (r : Recogniser α) (s : Text) : Prop where
  decides : ∀ u, u ≠ [] → u <:+ s → ∀ t, r (u ++ t) = r u
  inside : ∀ u n value, u <:+ s → r u = some (n, value) → n ≤ u.length

theorem Closes.tail {r : Recogniser α} {c : Char} {s : Text} (h : Closes r (c :: s)) : Closes r s where
  decides := fun u hu hs => h.decides u hu (hs.trans (List.suffix_cons c s))
  inside := fun u n value hs => h.inside u n value (hs.trans (List.suffix_cons c s))

theorem allFrom_append {r : Recogniser α} {a : Text} (h : Closes r a) (offset : Nat) {skip : Nat}
    (hskip : skip ≤ a.length) (b : Text) :
    allFrom r offset skip (a ++ b) =
      allFrom r offset skip a ++ allFrom r (offset + a.length) 0 b := by
  induction a generalizing offset skip with
  | nil =>
    obtain rfl := Nat.le_zero.mp hskip
    rfl
  | cons c a ih =>
    have hlength : offset + (c :: a).length = offset + 1 + a.length := by
      rw [List.length_cons]
      omega
    have hread : r (c :: (a ++ b)) = r (c :: a) :=
      h.decides (c :: a) (List.cons_ne_nil c a) (List.suffix_refl _) b
    rw [List.length_cons] at hskip
    simp only [List.cons_append, allFrom, hread, hlength]
    split
    · exact ih h.tail _ (by omega)
    · cases hr : r (c :: a) with
      | none => exact ih h.tail _ (Nat.zero_le _)
      | some found =>
        have hle := h.inside _ _ _ (List.suffix_refl _) hr
        rw [List.length_cons] at hle
        exact congrArg (_ :: ·) (ih h.tail _ (by omega))

/-- Behind a text in which the recogniser closes, the search starts anew. -/
theorem all_append {r : Recogniser α} {a : Text} (h : Closes r a) (b : Text) :
    all r (a ++ b) = all r a ++ (all r b).map (Match.shift a.length) := by
  rw [all, allFrom_append h 0 (Nat.zero_le _), Nat.zero_add, all, all, ← allFrom_shift, Nat.add_zero]

/-- Matches do not overlap and are listed in order. -/
theorem pairwise_all (r : Recogniser α) (s : Text) :
    (all r s).Pairwise fun m n => m.stop ≤ n.start :=
  pairwise_allFrom r 0 0 s

end Matches

end WebBaseline.Text
