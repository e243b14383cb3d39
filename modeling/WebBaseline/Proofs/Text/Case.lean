import WebBaseline.Text.Case

/-! Lower case, piece by piece and character by character.

Only a capital sigma is lower-cased by what stands around it. A text without one can be cut anywhere
(`lower_append`). Every character of a text in lower case is written for some character of the text
(`exists_of_mem_lower`): for itself, or from a table in which nothing that is written has a partner of
its own (`ne_of_mem_writtenCodes`). So a text in lower case is left as it is by lower-casing it again
(`lower_lower`), no capital of the Latin alphabet comes out, and full stops stay where they are. -/
namespace WebBaseline.Text

/-- What is checked of each character of a text holds of all of them. -/
theorem forall_mem_of_all {p : Char → Prop} [DecidablePred p] {s : Text}
    (h : (s.all fun c => decide (p c)) = true) : ∀ c ∈ s, p c :=
  fun c hc => of_decide_eq_true (List.all_eq_true.mp h c hc)

/-- Only the first 128 characters have an ASCII partner. -/
theorem toLower_of_le {c : Char} (h : 128 ≤ c.toNat) : c.toLower = c := by
  apply dif_neg
  rintro ⟨-, hz⟩
  have : c.toNat ≤ 90 := hz
  omega

/-- Without a sigma it does not matter what stands before. -/
theorem lowerAfter_eq_lower {s : Text} (h : 'Σ' ∉ s) (before : Text) :
    lowerAfter before s = lower s := by
  unfold lower
  generalize ([] : Text) = before'
  induction s generalizing before before' with
  | nil => rfl
  | cons c s ih =>
    have hc : ¬ c = 'Σ' := fun he => h (he ▸ List.mem_cons_self ..)
    simp only [lowerAfter, if_neg hc]
    rw [ih (fun hm => h (List.mem_cons_of_mem c hm)) (c :: before) (c :: before')]

/-- A text without a sigma is lower-cased apart from what stands behind it. -/
theorem lower_append_after {a : Text} (ha : 'Σ' ∉ a) (b : Text) :
    lower (a ++ b) = lower a ++ lowerAfter a.reverse b := by
  suffices h : ∀ before, lowerAfter before (a ++ b) = lowerAfter before a ++ lowerAfter (a.reverse ++ before) b by
    have hstart := h []
    rwa [List.append_nil] at hstart
  induction a with
  | nil => exact fun before => rfl
  | cons c a ih =>
    intro before
    have hc : ¬ c = 'Σ' := fun he => ha (he ▸ List.mem_cons_self ..)
    simp only [List.cons_append, lowerAfter, if_neg hc]
    rw [ih fun hm => ha (List.mem_cons_of_mem c hm), List.append_assoc, List.reverse_cons, List.append_assoc,
      List.singleton_append]

theorem lower_append {a b : Text} (ha : 'Σ' ∉ a) (hb : 'Σ' ∉ b) :
    lower (a ++ b) = lower a ++ lower b := by
  rw [lower_append_after ha, lowerAfter_eq_lower hb]

/-- Lower-casing leaves no character out. -/
theorem lowerAfter_eq_nil_iff (before s : Text) : lowerAfter before s = [] ↔ s = [] := by
  cases s with
  | nil => exact ⟨fun _ => rfl, fun _ => rfl⟩
  | cons c rest =>
    simp only [lowerAfter, List.append_eq_nil_iff, reduceCtorEq, iff_false]
    intro ⟨himage, _⟩
    split at himage
    · split at himage <;> cases himage
    · split at himage <;> cases himage

theorem lower_eq_nil_iff (s : Text) : lower s = [] ↔ s = [] :=
  lowerAfter_eq_nil_iff [] s

/-! ### The table, pair by pair -/

/-- The capitals of a row, each with its partner. -/
def rowPairs : Nat × Nat × Nat × Int → List (Nat × Nat)
  | (first, last, step, shift) =>
    (List.range ((last - first) / step + 1)).map fun i =>
      (first + i * step, (((first + i * step : Nat) : Int) + shift).toNat)

/-- Every capital with its partner. -/
def casePairs : List (Nat × Nat) :=
  lowerSteps.flatMap rowPairs

theorem mem_casePairs {first last step n : Nat} {shift : Int}
    (hrow : (first, last, step, shift) ∈ lowerSteps) (hlow : first ≤ n) (hhigh : n ≤ last)
    (hstep : (n - first) % step = 0) : (n, ((n : Int) + shift).toNat) ∈ casePairs := by
  have hn : first + (n - first) / step * step = n := by
    rw [Nat.div_mul_cancel (Nat.dvd_of_mod_eq_zero hstep)]
    omega
  refine List.mem_flatMap.mpr ⟨_, hrow, List.mem_map.mpr ⟨(n - first) / step, ?_, ?_⟩⟩
  · exact List.mem_range.mpr (Nat.lt_succ_of_le (Nat.div_le_div_right (by omega)))
  · simp only [hn]

/-- A character is its own partner, or the table says which one it has. -/
theorem lowerChar_cases (c : Char) :
    lowerChar c = c ∨ ∃ pair ∈ casePairs, pair.1 = c.toNat ∧ lowerChar c = Char.ofNat pair.2 := by
  unfold lowerChar
  split
  · rename_i hsmall
    have hall : ∀ n < 128, (Char.ofNat n).toLower = Char.ofNat n ∨
        (65 ≤ n ∧ n ≤ 90) ∧ (Char.ofNat n).toLower = Char.ofNat ((n : Int) + 32).toNat := by
      decide +kernel
    rcases hall c.toNat hsmall with h | ⟨⟨hlow, hhigh⟩, h⟩ <;> rw [Char.ofNat_toNat] at h
    · exact .inl h
    · have hrow : (65, 90, 1, 32) ∈ lowerSteps := by decide
      exact .inr ⟨_, mem_casePairs hrow hlow hhigh (Nat.mod_one _), rfl, h⟩
  · split
    · rename_i first last step shift hfind
      have hfits := List.find?_some hfind
      simp only [Bool.and_eq_true, decide_eq_true_eq, beq_iff_eq] at hfits
      obtain ⟨⟨hlow, hhigh⟩, hstep⟩ := hfits
      exact .inr ⟨_, mem_casePairs (List.mem_of_find?_eq_some hfind) hlow hhigh hstep, rfl, rfl⟩
    · exact .inl rfl

/-! ### What lower-casing writes -/

/-- What lower-casing may write for a character. -/
def lowerForms (d : Char) : Text :=
  if d = 'Σ' then ['ς', 'σ'] else if d = 'İ' then ['i', Char.ofNat 0x307] else [lowerChar d]

/-- The code points that lower-casing writes for others; a number that is no code point is read as
zero. -/
def writtenCodes : List Nat :=
  [0, 'i'.toNat, 0x307, 'ς'.toNat, 'σ'.toNat] ++ casePairs.map (·.2)

/-- What lower-casing puts in the place of a character: one of its forms, or all of them. -/
theorem lowerAfter_cons (before : Text) (d : Char) (s : Text) :
    ∃ image : Text, image ≠ [] ∧ (∀ c ∈ image, c ∈ lowerForms d) ∧
      lowerAfter before (d :: s) = image ++ lowerAfter (d :: before) s := by
  simp only [lowerAfter, lowerForms]
  split
  · split
    · exact ⟨['ς'], by simp, by simp, rfl⟩
    · exact ⟨['σ'], by simp, by simp, rfl⟩
  · split
    · exact ⟨['i', Char.ofNat 0x307], by simp, fun c hc => hc, rfl⟩
    · exact ⟨[lowerChar d], by simp, fun c hc => hc, rfl⟩

/-- What stands last is lower-cased last. -/
theorem exists_lowerAfter_append (before a b : Text) :
    ∃ image, lowerAfter before (a ++ b) = image ++ lowerAfter (a.reverse ++ before) b := by
  induction a generalizing before with
  | nil => exact ⟨[], rfl⟩
  | cons d a ih =>
    obtain ⟨image, -, -, himage⟩ := lowerAfter_cons before d (a ++ b)
    obtain ⟨rest, hrest⟩ := ih (d :: before)
    refine ⟨image ++ rest, ?_⟩
    rw [List.cons_append, himage, hrest, List.reverse_cons, List.append_assoc, List.append_assoc,
      List.singleton_append]

theorem exists_of_mem_lower {s : Text} {c : Char} (h : c ∈ lower s) : ∃ d ∈ s, c ∈ lowerForms d := by
  unfold lower at h
  generalize ([] : Text) = before at h
  induction s generalizing before with
  | nil => cases h
  | cons d s ih =>
    obtain ⟨image, -, hforms, heq⟩ := lowerAfter_cons before d s
    rw [heq] at h
    rcases List.mem_append.mp h with himage | hrest
    · exact ⟨d, List.mem_cons_self .., hforms c himage⟩
    · obtain ⟨d', hd', hc⟩ := ih _ hrest
      exact ⟨d', List.mem_cons_of_mem d hd', hc⟩

/-- A form of a character is the character, or a code point that is written for others. -/
theorem eq_or_mem_writtenCodes {c d : Char} (h : c ∈ lowerForms d) :
    c = d ∧ lowerChar c = c ∧ c ≠ 'İ' ∨ c.toNat ∈ writtenCodes := by
  unfold lowerForms at h
  split at h
  · have hall : ∀ c ∈ ['ς', 'σ'], c.toNat ∈ [0, 'i'.toNat, 0x307, 'ς'.toNat, 'σ'.toNat] :=
      forall_mem_of_all (by decide)
    exact .inr (List.mem_append_left _ (hall c h))
  · split at h
    · have hall : ∀ c ∈ ['i', Char.ofNat 0x307],
          c.toNat ∈ [0, 'i'.toNat, 0x307, 'ς'.toNat, 'σ'.toNat] := forall_mem_of_all (by decide)
      exact .inr (List.mem_append_left _ (hall c h))
    · rename_i hdotted
      obtain rfl := List.mem_singleton.mp h
      rcases lowerChar_cases d with hd | ⟨pair, hpair, -, hd⟩
      · exact .inl ⟨hd, by rw [hd, hd], by rwa [hd]⟩
      · right
        rw [hd]
        by_cases hvalid : pair.2.isValidChar
        · rw [Char.ofNat, dif_pos hvalid]
          exact List.mem_append_right _ (List.mem_map_of_mem hpair)
        · rw [Char.ofNat, dif_neg hvalid]
          exact List.mem_append_left _ (by decide)

/-- A character that is written for no other one was there before. -/
theorem mem_of_mem_lower {s : Text} {c : Char} (hc : c.toNat ∉ writtenCodes) (h : c ∈ lower s) :
    c ∈ s := by
  obtain ⟨d, hd, hforms⟩ := exists_of_mem_lower h
  rcases eq_or_mem_writtenCodes hforms with ⟨rfl, -⟩ | hwritten
  · exact hd
  · exact absurd hwritten hc

/-! ### What is never written -/

/-- A set of numbers as the bits of one number, in which large sets are compared at once. -/
def bitSet (l : List Nat) : Nat :=
  l.foldr (fun n bits => bits ||| 1 <<< n) 0

theorem testBit_bitSet (l : List Nat) (n : Nat) : (bitSet l).testBit n = decide (n ∈ l) := by
  induction l with
  | nil => simp [bitSet]
  | cons m l ih =>
    have step : bitSet (m :: l) = bitSet l ||| 1 <<< m := rfl
    rw [step, Nat.testBit_or, ih, Nat.one_shiftLeft, Nat.testBit_two_pow, Bool.eq_iff_iff]
    simp only [Bool.or_eq_true, decide_eq_true_eq, List.mem_cons]
    rw [or_comm, eq_comm]

theorem disjoint_of_bitSet {a b : List Nat} (h : bitSet a &&& bitSet b = 0) {n : Nat} (ha : n ∈ a) :
    n ∉ b := by
  intro hb
  have hbit : (bitSet a &&& bitSet b).testBit n = true := by
    rw [Nat.testBit_and, testBit_bitSet, testBit_bitSet, decide_eq_true ha, decide_eq_true hb]
    rfl
  rw [h, Nat.zero_testBit] at hbit
  cases hbit

/-- No capital is written for another character, nor is a full stop. -/
theorem ne_of_mem_writtenCodes {n : Nat} (h : n ∈ writtenCodes) :
    n ≠ 'İ'.toNat ∧ n ≠ '.'.toNat ∧ ∀ pair ∈ casePairs, pair.1 ≠ n := by
  have hbits : bitSet writtenCodes &&&
      bitSet (['İ'.toNat, '.'.toNat] ++ casePairs.map (·.1)) = 0 := by decide +kernel
  have hnew := disjoint_of_bitSet hbits h
  rw [List.mem_append, not_or] at hnew
  refine ⟨?_, ?_, fun pair hpair he => hnew.2 (he ▸ List.mem_map_of_mem hpair)⟩
  · rintro rfl
    exact hnew.1 (by decide)
  · rintro rfl
    exact hnew.1 (by decide)

/-- A character that lower-casing leaves as it is. -/
def IsLow (c : Char) : Prop :=
  lowerChar c = c ∧ c ≠ 'İ'

instance (c : Char) : Decidable (IsLow c) :=
  inferInstanceAs (Decidable (_ ∧ _))

theorem isLow_of_mem_lowerForms {c d : Char} (h : c ∈ lowerForms d) : IsLow c := by
  rcases eq_or_mem_writtenCodes h with ⟨-, hlow⟩ | hwritten
  · exact hlow
  · obtain ⟨hdotted, -, hcapital⟩ := ne_of_mem_writtenCodes hwritten
    refine ⟨?_, fun he => hdotted (he ▸ rfl)⟩
    rcases lowerChar_cases c with hc | ⟨pair, hpair, hcode, -⟩
    · exact hc
    · exact absurd hcode (hcapital pair hpair)

theorem isLow_of_mem_lower {s : Text} {c : Char} (h : c ∈ lower s) : IsLow c := by
  obtain ⟨d, -, hc⟩ := exists_of_mem_lower h
  exact isLow_of_mem_lowerForms hc

theorem lowerAfter_of_isLow {c : Char} (h : IsLow c) (before s : Text) :
    lowerAfter before (c :: s) = c :: lowerAfter (c :: before) s := by
  have hsigma : ¬ c = 'Σ' := by
    rintro rfl
    exact absurd h.1 (by decide +kernel)
  simp only [lowerAfter, if_neg hsigma, if_neg h.2, h.1, List.singleton_append]

theorem lower_eq_self {s : Text} (h : ∀ c ∈ s, IsLow c) : lower s = s := by
  unfold lower
  generalize ([] : Text) = before
  induction s generalizing before with
  | nil => rfl
  | cons c s ih =>
    rw [lowerAfter_of_isLow (h c (List.mem_cons_self ..)),
      ih fun x hx => h x (List.mem_cons_of_mem c hx)]

/-- A text starts with characters that are written for no others if it does so in lower case. -/
theorem prefix_lower_iff {mark s : Text} (h : ∀ c ∈ mark, IsLow c ∧ c.toNat ∉ writtenCodes) :
    mark <+: lower s ↔ mark <+: s := by
  unfold lower
  generalize ([] : Text) = before
  induction s generalizing mark before with
  | nil => rfl
  | cons d s ih =>
    cases mark with
    | nil => simp
    | cons c mark =>
      obtain ⟨⟨hc, hnew⟩, hmark⟩ := List.forall_mem_cons.mp h
      by_cases hd : d = c
      · subst hd
        rw [lowerAfter_of_isLow hc, List.cons_prefix_cons, List.cons_prefix_cons, ih hmark]
      · obtain ⟨image, hne, hforms, himage⟩ := lowerAfter_cons before d s
        obtain ⟨x, image, rfl⟩ := List.exists_cons_of_ne_nil hne
        have hx : c ≠ x := by
          rintro rfl
          rcases eq_or_mem_writtenCodes (hforms c (List.mem_cons_self ..)) with ⟨he, -⟩ | hwritten
          · exact hd he.symm
          · exact hnew hwritten
        rw [himage, List.cons_append, List.cons_prefix_cons, List.cons_prefix_cons]
        simp only [hx, Ne.symm hd, false_and]

/-- Lower-casing a second time changes nothing. -/
theorem lower_lower (s : Text) : lower (lower s) = lower s :=
  lower_eq_self fun _ => isLow_of_mem_lower

/-! ### Capitals -/

/-- Whether `c` is a capital of the Latin alphabet. -/
def IsCapital (c : Char) : Prop :=
  65 ≤ c.toNat ∧ c.toNat ≤ 90

instance (c : Char) : Decidable (IsCapital c) :=
  inferInstanceAs (Decidable (_ ∧ _))

theorem not_isCapital_of_mem_lower {s : Text} {c : Char} (h : c ∈ lower s) : ¬ IsCapital c := by
  intro hc
  have hall : ∀ n ≤ 90, IsCapital (Char.ofNat n) → ¬ IsLow (Char.ofNat n) := by decide +kernel
  have hnot := hall c.toNat hc.2
  rw [Char.ofNat_toNat] at hnot
  exact hnot hc (isLow_of_mem_lower h)

/-! ### Full stops -/

theorem dot_mem_lower_iff {s : Text} : '.' ∈ lower s ↔ '.' ∈ s := by
  constructor
  · intro h
    obtain ⟨d, hd, hforms⟩ := exists_of_mem_lower h
    rcases eq_or_mem_writtenCodes hforms with ⟨rfl, -⟩ | hwritten
    · exact hd
    · exact absurd rfl (ne_of_mem_writtenCodes hwritten).2.1
  · intro h
    obtain ⟨a, b, rfl⟩ := List.append_of_mem h
    obtain ⟨image, himage⟩ := exists_lowerAfter_append [] a ('.' :: b)
    obtain ⟨dots, hdots, hforms, hrest⟩ := lowerAfter_cons (a.reverse ++ []) '.' b
    obtain ⟨c, hc⟩ := List.exists_mem_of_ne_nil dots hdots
    have hdot : ∀ c ∈ lowerForms '.', c = '.' := forall_mem_of_all (by decide)
    rw [lower, himage, hrest, ← hdot c (hforms c hc)]
    exact List.mem_append_right _ (List.mem_append_left _ hc)

end WebBaseline.Text
