import WebBaseline.Proofs.Text.Blank
import WebBaseline.Proofs.Text.Search

/-! Names of features.

A name is a Latin letter followed by letters, digits and hyphens. All its characters are among the first
128, so what they are to a scanner can be looked up there (`IsName.forall_mem`), and a name in lower case
is a name that lower-casing leaves alone (`IsName.lowered`). -/
namespace WebBaseline.Text

def isNamePart (c : Char) : Bool :=
  isLetter c || isDigit c || c == '-'

/-- A name: a letter, and then letters, digits and hyphens. -/
def IsName : Text → Prop
  | [] => False
  | c :: s => isLetter c = true ∧ s.all isNamePart = true

instance : DecidablePred IsName
  | [] => inferInstanceAs (Decidable False)
  | c :: s => inferInstanceAs (Decidable (isLetter c = true ∧ s.all isNamePart = true))

/-! ### Characters -/

theorem toNat_lt_of_isNamePart {c : Char} (h : isNamePart c = true) : c.toNat < 128 := by
  simp only [isNamePart, isLetter, isDigit, Bool.or_eq_true, Bool.and_eq_true, decide_eq_true_eq,
    beq_iff_eq, Char.le_def, UInt32.le_iff_toNat_le] at h
  rcases h with ((h | h) | h) | rfl
  · exact Nat.lt_of_le_of_lt h.2 (by decide)
  · exact Nat.lt_of_le_of_lt h.2 (by decide)
  · exact Nat.lt_of_le_of_lt h.2 (by decide)
  · decide

/-- What holds of all first 128 characters that can stand in a name holds of all that can. -/
theorem of_isNamePart {p : Char → Prop}
    (hp : ∀ n < 128, isNamePart (Char.ofNat n) = true → p (Char.ofNat n)) {c : Char}
    (h : isNamePart c = true) : p c := by
  have hc := hp c.toNat (toNat_lt_of_isNamePart h)
  rw [Char.ofNat_toNat] at hc
  exact hc h

namespace IsName

variable {s : Text}

theorem ne_nil (h : IsName s) : s ≠ [] := by
  rintro rfl
  exact h

theorem isNamePart_of_mem (h : IsName s) {c : Char} (hc : c ∈ s) : isNamePart c = true := by
  match s, h with
  | d :: s, ⟨hd, hs⟩ =>
    rcases List.mem_cons.mp hc with rfl | hc
    · simp [isNamePart, hd]
    · exact List.all_eq_true.mp hs c hc

theorem isLetter_take (h : IsName s) : (s.take 1).all isLetter = true := by
  match s, h with
  | c :: s, ⟨hc, _⟩ => simp [hc]

theorem forall_mem (h : IsName s) {p : Char → Prop}
    (hp : ∀ n < 128, isNamePart (Char.ofNat n) = true → p (Char.ofNat n)) : ∀ c ∈ s, p c :=
  fun _ hc => of_isNamePart hp (h.isNamePart_of_mem hc)

/-- A text with a name in front starts with a letter. -/
theorem append_ne_cons (h : IsName s) {c : Char} (hc : isLetter c = false) (t u : Text) :
    s ++ t ≠ c :: u := by
  match s, h with
  | d :: s, ⟨hd, _⟩ =>
    intro he
    rw [(List.cons.inj he).1, hc] at hd
    cases hd

/-- A name does not stand where a text starts with something else than a letter. -/
theorem not_startsWith (h : IsName s) {c : Char} (hc : isLetter c = false) (t : Text) :
    startsWith (c :: t) s = false := by
  apply Bool.eq_false_iff.mpr
  intro hstart
  obtain ⟨rest, hrest⟩ := startsWith_iff.mp hstart
  exact h.append_ne_cons hc rest t hrest.symm

/-! ### Blanks -/

theorem isBlank_of_mem (h : IsName s) : ∀ c ∈ s, isBlank c = false :=
  h.forall_mem (by decide +kernel)

theorem stripLeft_append (h : IsName s) (t : Text) : stripLeft (s ++ t) = s ++ t := by
  cases s with
  | nil => exact h.elim
  | cons c s => simp [stripLeft, h.isBlank_of_mem c (List.mem_cons_self ..)]

theorem strip_eq (h : IsName s) : strip s = s :=
  (isTrimmed_of_forall h.isBlank_of_mem).strip_eq

end IsName

/-! ### Lower case -/

theorem lowerAfter_of_isNamePart {s : Text} (h : ∀ c ∈ s, isNamePart c = true) (before : Text) :
    lowerAfter before s = asciiLower s := by
  induction s generalizing before with
  | nil => rfl
  | cons c s ih =>
    have hc : ¬ c = 'Σ' ∧ ¬ c = 'İ' ∧ c.toNat < 128 :=
      of_isNamePart (p := fun c => ¬ c = 'Σ' ∧ ¬ c = 'İ' ∧ c.toNat < 128) (by decide +kernel)
        (h c (List.mem_cons_self ..))
    simp only [lowerAfter, if_neg hc.1, if_neg hc.2.1, lowerChar, if_pos hc.2.2,
      ih fun x hx => h x (List.mem_cons_of_mem _ hx)]
    rfl

theorem IsName.lower_eq {s : Text} (h : IsName s) : lower s = asciiLower s :=
  lowerAfter_of_isNamePart (fun _ => h.isNamePart_of_mem) []

/-- A name in lower case. -/
structure IsLowName (s : Text) : Prop where
  name : IsName s
  lower_eq : lower s = s

theorem IsName.lowered {s : Text} (h : IsName s) : IsLowName (lower s) := by
  have hname : IsName (asciiLower s) := by
    match s, h with
    | c :: s, ⟨hc, hs⟩ =>
      refine ⟨?_, List.all_eq_true.mpr fun x hx => ?_⟩
      · exact of_isNamePart (p := fun c => isLetter c = true → isLetter c.toLower = true)
          (by decide +kernel) (by simp [isNamePart, hc]) hc
      · obtain ⟨y, hy, rfl⟩ := List.mem_map.mp hx
        exact of_isNamePart (p := fun y => isNamePart y.toLower = true) (by decide +kernel)
          (List.all_eq_true.mp hs y hy)
  exact ⟨h.lower_eq ▸ hname, lower_lower s⟩

end WebBaseline.Text
