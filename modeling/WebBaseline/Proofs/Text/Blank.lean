import WebBaseline.Proofs.Text.Case
import WebBaseline.Proofs.Text.Pieces
import WebBaseline.Text.Blank

/-! Blanks at the ends of a text.

Stripping a text leaves it without blanks at its ends (`isTrimmed_strip`), and a text without them is left
as it is (`IsTrimmed.strip_eq`). Such texts can be put together, and they stay so in lower case, since no
blank is written for another character (`IsTrimmed.append`, `IsTrimmed.lowered`). -/
namespace WebBaseline.Text

/-! ### Blank characters -/

theorem Ranges.exists_of_contains {ranges : List (Nat × Nat)} {n : Nat}
    (h : Ranges.contains ranges n = true) : ∃ range ∈ ranges, range.1 ≤ n ∧ n ≤ range.2 := by
  induction ranges with
  | nil => cases h
  | cons range rest ih =>
    obtain ⟨lo, hi⟩ := range
    unfold Ranges.contains at h
    split at h
    · cases h
    · rename_i hlo
      rcases (Bool.or_eq_true _ _).mp h with hhi | hrest
      · exact ⟨(lo, hi), List.mem_cons_self .., Nat.le_of_not_lt hlo, of_decide_eq_true hhi⟩
      · obtain ⟨range, hrange, hn⟩ := ih hrest
        exact ⟨range, List.mem_cons_of_mem _ hrange, hn⟩

/-- The code points of blank characters, one by one. -/
def blankCodes : List Nat :=
  blankRanges.flatMap fun (lo, hi) => (List.range (hi + 1 - lo)).map (lo + ·)

theorem mem_blankCodes {c : Char} (h : isBlank c = true) : c.toNat ∈ blankCodes := by
  obtain ⟨⟨lo, hi⟩, hrange, hlo, hhi⟩ := Ranges.exists_of_contains h
  refine List.mem_flatMap.mpr ⟨(lo, hi), hrange, List.mem_map.mpr ⟨c.toNat - lo, ?_, ?_⟩⟩
  · rw [List.mem_range]
    omega
  · exact Nat.add_sub_cancel' hlo

/-- A class without the blank characters has none. -/
theorem not_isBlank_of {p : Char → Bool} (hp : ∀ n ∈ blankCodes, p (Char.ofNat n) = false) {c : Char}
    (h : p c = true) : isBlank c = false := by
  rw [Bool.eq_false_iff]
  intro hblank
  have hnot := hp _ (mem_blankCodes hblank)
  rw [Char.ofNat_toNat, h] at hnot
  cases hnot

/-- No blank is written in lower case for a character that is none. -/
theorem not_isBlank_of_mem_lowerForms {c d : Char} (h : c ∈ lowerForms d) (hd : isBlank d = false) :
    isBlank c = false := by
  rcases eq_or_mem_writtenCodes h with ⟨rfl, -⟩ | hwritten
  · exact hd
  · rw [Bool.eq_false_iff]
    intro hblank
    have hbits : bitSet writtenCodes &&& bitSet blankCodes = 0 := by decide +kernel
    exact disjoint_of_bitSet hbits hwritten (mem_blankCodes hblank)

/-! ### Trimmed texts -/

/-- No blanks at either end. -/
structure IsTrimmed (s : Text) : Prop where
  head : ∀ c ∈ s.head?, isBlank c = false
  last : ∀ c ∈ s.getLast?, isBlank c = false

theorem dropWhile_of_head? {p : Char → Bool} {s : Text} (h : ∀ c ∈ s.head?, p c = false) :
    s.dropWhile p = s := by
  cases s with
  | nil => rfl
  | cons c s => exact List.dropWhile_cons_of_neg (by simp [h c rfl])

theorem IsTrimmed.strip_eq {s : Text} (h : IsTrimmed s) : strip s = s := by
  have hlast : ∀ c ∈ s.reverse.head?, isBlank c = false := by
    rw [List.head?_reverse]
    exact h.last
  rw [strip, stripLeft, dropWhile_of_head? h.head, stripRight, dropWhile_of_head? hlast,
    List.reverse_reverse]

theorem of_mem_head?_dropWhile {p : Char → Bool} {s : Text} {c : Char}
    (h : c ∈ (s.dropWhile p).head?) : p c = false := by
  have hhead := List.head?_dropWhile_not p s
  rwa [Option.mem_def.mp h] at hhead

theorem isTrimmed_strip (s : Text) : IsTrimmed (strip s) := by
  constructor
  · intro c hc
    -- The blanks behind are cut off, so what is first stays first.
    obtain ⟨behind, hbehind⟩ := List.reverse_prefix.mpr
      (List.dropWhile_suffix isBlank (l := (stripLeft s).reverse))
    rw [List.reverse_reverse] at hbehind
    apply of_mem_head?_dropWhile (s := s)
    rw [← stripLeft, ← hbehind, List.head?_append, ← stripRight, ← strip, Option.mem_def.mp hc]
    rfl
  · intro c hc
    rw [strip, stripRight, List.getLast?_reverse] at hc
    exact of_mem_head?_dropWhile hc

theorem mem_of_mem_strip {s : Text} {c : Char} (h : c ∈ strip s) : c ∈ s := by
  have hright := (List.dropWhile_suffix isBlank).subset (List.mem_reverse.mp h)
  exact (List.dropWhile_suffix isBlank).subset (List.mem_reverse.mp hright)

theorem mem_strip {s : Text} {c : Char} (hc : c ∈ s) (h : isBlank c = false) : c ∈ strip s := by
  have hleft : c ∈ stripLeft s := mem_dropWhile hc h
  exact List.mem_reverse.mpr (mem_dropWhile (List.mem_reverse.mpr hleft) h)

/-- Something is left of a text just if it has more than blanks. -/
theorem strip_ne_nil_iff {s : Text} : strip s ≠ [] ↔ ∃ c ∈ s, isBlank c = false := by
  constructor
  · intro hne
    obtain ⟨c, rest, hstrip⟩ := List.exists_cons_of_ne_nil hne
    have hmem : c ∈ strip s := hstrip ▸ List.mem_cons_self ..
    exact ⟨c, mem_of_mem_strip hmem, (isTrimmed_strip s).head c (by rw [hstrip]; rfl)⟩
  · rintro ⟨c, hc, hblank⟩
    exact List.ne_nil_of_mem (mem_strip hc hblank)

theorem stripped?_eq_some_iff {s t : Text} : stripped? s = some t ↔ strip s = t ∧ t ≠ [] := by
  unfold stripped?
  by_cases h : strip s = []
  · simp only [h, List.isEmpty_nil, if_true, reduceCtorEq, false_iff, not_and]
    exact fun he hne => hne he.symm
  · simp only [List.isEmpty_iff, h, if_false, Option.some.injEq]
    exact ⟨fun he => ⟨he, he ▸ h⟩, And.left⟩

theorem isTrimmed_of_forall {s : Text} (h : ∀ c ∈ s, isBlank c = false) : IsTrimmed s :=
  ⟨fun c hc => h c (List.mem_of_mem_head? hc), fun c hc => h c (List.mem_of_mem_getLast? hc)⟩

theorem IsTrimmed.append {a b : Text} (ha : IsTrimmed a) (hb : IsTrimmed b) : IsTrimmed (a ++ b) := by
  constructor
  · intro c hc
    rw [List.head?_append, Option.mem_def, Option.or_eq_some_iff] at hc
    rcases hc with hc | ⟨-, hc⟩
    · exact ha.head c hc
    · exact hb.head c hc
  · intro c hc
    rw [List.getLast?_append, Option.mem_def, Option.or_eq_some_iff] at hc
    rcases hc with hc | ⟨-, hc⟩
    · exact hb.last c hc
    · exact ha.last c hc

/-- Behind a text without blanks at its ends, only the blanks at the end are stripped. -/
theorem IsTrimmed.strip_append {a : Text} (ha : IsTrimmed a) (hne : a ≠ []) (b : Text) :
    strip (a ++ b) = a ++ stripRight b := by
  have hleft : stripLeft (a ++ b) = a ++ b := by
    apply dropWhile_of_head?
    intro c hc
    rw [List.head?_append, List.head?_eq_some_head hne, Option.some_or] at hc
    exact ha.head c (List.head?_eq_some_head hne ▸ hc)
  have hlast : a.reverse.dropWhile isBlank = a.reverse := by
    apply dropWhile_of_head?
    rw [List.head?_reverse]
    exact ha.last
  rw [strip, hleft, stripRight, stripRight, List.reverse_append, List.dropWhile_append, hlast]
  split
  · rename_i hempty
    rw [List.isEmpty_iff.mp hempty, List.reverse_reverse, List.reverse_nil, List.append_nil]
  · rw [List.reverse_append, List.reverse_reverse]

/-- A trimmed text stays trimmed in lower case: its ends become forms of its ends. -/
theorem IsTrimmed.lowered {s : Text} (h : IsTrimmed s) : IsTrimmed (lower s) := by
  constructor
  · intro c hc
    cases s with
    | nil => cases hc
    | cons d s =>
      obtain ⟨image, hne, hforms, hlower⟩ := lowerAfter_cons [] d s
      obtain ⟨x, image, rfl⟩ := List.exists_cons_of_ne_nil hne
      rw [lower, hlower] at hc
      cases hc
      exact not_isBlank_of_mem_lowerForms (hforms _ (List.mem_cons_self ..)) (h.head d rfl)
  · intro c hc
    rcases List.eq_nil_or_concat s with rfl | ⟨s, d, rfl⟩
    · cases hc
    · obtain ⟨before, hbefore⟩ := exists_lowerAfter_append [] s [d]
      obtain ⟨image, hne, hforms, himage⟩ := lowerAfter_cons (s.reverse ++ []) d []
      have hlower : lower (s ++ [d]) = before ++ image := by
        rw [lower, hbefore, himage, lowerAfter, List.append_nil]
      rw [List.concat_eq_append] at h hc
      rw [hlower, List.getLast?_append, Option.mem_def, Option.or_eq_some_iff] at hc
      rcases hc with hc | ⟨hnone, -⟩
      · exact not_isBlank_of_mem_lowerForms (hforms c (List.mem_of_getLast? hc))
          (h.last d List.getLast?_concat)
      · exact absurd (List.getLast?_eq_none_iff.mp hnone) hne

end WebBaseline.Text
