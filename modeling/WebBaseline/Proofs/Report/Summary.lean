import WebBaseline.Proofs.Text.Field
import WebBaseline.Report

/-! The counts of a summary.

A summary is a line of words, and the number in front of a tier's word is the count of that tier. `shown`
reads the counts back off the line. `shown_summary` says that they are the numbers of findings, and
`summary_eq_ok_iff` that the line without counts is the one for no findings of these tiers. -/
namespace WebBaseline

/-! ### Numbers -/

namespace Text

theorem ofNat_eq_toDigits (n : Nat) : ofNat n = Nat.toDigits 10 n := by
  show (toString n).toList = _
  rw [Nat.toString_eq_repr, Nat.toList_repr]

theorem isDigit_of_mem_ofNat {n : Nat} {c : Char} (h : c ∈ ofNat n) : c.isDigit = true :=
  Nat.isDigit_of_mem_toDigits (by decide) (by decide) (ofNat_eq_toDigits n ▸ h)

theorem ofNat_ne_nil (n : Nat) : ofNat n ≠ [] := by
  rw [ofNat_eq_toDigits]
  exact Nat.toDigits_ne_nil

/-- The digits of a number read as the number. -/
theorem digitsValue_ofNat (n : Nat) : digitsValue 0 (ofNat n) = n := by
  have hread : digitsValue 0 (Nat.toDigits 10 n) = Nat.ofDigitChars 10 (Nat.toDigits 10 n) 0 := by
    rw [Nat.ofDigitChars_eq_foldl]
    simp only [digitsValue, Nat.mul_comm]
  rw [ofNat_eq_toDigits, hread, Nat.ofDigitChars_ten_toDigits]

/-- A number is no word that starts with another character than a digit. -/
theorem ofNat_ne_cons {c : Char} (hc : c.isDigit = false) (n : Nat) (s : Text) : ofNat n ≠ c :: s := by
  intro h
  have hdigit := isDigit_of_mem_ofNat (h ▸ List.mem_cons_self .. : c ∈ ofNat n)
  rw [hc] at hdigit
  cases hdigit

end Text

namespace Report

/-! ### Words of a summary -/

/-- The characters between words. -/
def isGap (c : Char) : Bool :=
  c == ' ' || c == ','

theorem isGap_space : isGap ' ' = true := rfl

theorem isGap_comma : isGap ',' = true := rfl

/-- The number in front of a word, or zero if the word does not occur. -/
def numberBefore (word : Text) : List Text → Nat
  | number :: next :: rest =>
    if next = word then Text.digitsValue 0 number else numberBefore word (next :: rest)
  | _ => 0

/-- The count that a summary shows for a tier. -/
def shown (status : Status) (line : Text) : Nat :=
  numberBefore status.shortLabel (Text.fields isGap line)

theorem fields_ofNat (n : Nat) : Text.fields isGap (Text.ofNat n) = [Text.ofNat n] := by
  apply Text.fields_free _ (Text.ofNat_ne_nil n)
  intro c hc
  have hdigit := Text.isDigit_of_mem_ofNat hc
  have hother : ∀ gap : Char, gap.isDigit = false → (c == gap) = false := fun gap hgap =>
    beq_eq_false_iff_ne.mpr fun he => by
      rw [he, hgap] at hdigit
      cases hdigit
  rw [isGap, hother ' ' (by decide), hother ',' (by decide)]
  rfl

/-- The words for a count. -/
def countWords (part : Nat × Status) : List Text :=
  [Text.ofNat part.1, part.2.shortLabel]

theorem fields_count (part : Nat × Status) :
    Text.fields isGap (Text.ofNat part.1 ++ " " ++ part.2.shortLabel) = countWords part := by
  have hlabel : Text.fields isGap part.2.shortLabel = [part.2.shortLabel] := by
    cases part.2 <;> rfl
  have hcut := Text.fields_cut isGap_space (Text.ofNat part.1) part.2.shortLabel
  rw [fields_ofNat, hlabel] at hcut
  rw [List.append_assoc]
  exact hcut

theorem fields_comma (a s : Text) :
    Text.fields isGap (a ++ ", " ++ s) = Text.fields isGap a ++ Text.fields isGap s := by
  have hcomma := Text.fields_cut isGap_comma a (' ' :: s)
  have hspace := Text.fields_cut isGap_space [] s
  rw [List.append_assoc]
  exact hcomma.trans (congrArg _ hspace)

theorem fields_counts (parts : List (Nat × Status)) :
    Text.fields isGap (Text.join ", " (parts.map fun (n, s) => Text.ofNat n ++ " " ++ s.shortLabel)) =
      parts.flatMap countWords := by
  induction parts with
  | nil => rfl
  | cons part rest ih =>
    cases rest with
    | nil => exact (fields_count part).trans (List.append_nil _).symm
    | cons next rest =>
      rw [List.map_cons, Text.join_cons (by simp), fields_comma, ih, fields_count]
      rfl

/-! ### Reading the counts back -/

theorem shortLabel_injective : Function.Injective Status.shortLabel := by
  intro a b h
  cases a <;> cases b <;> first | rfl | exact absurd h (by decide)

theorem ofNat_ne_shortLabel (n : Nat) (status : Status) : Text.ofNat n ≠ status.shortLabel := by
  cases status <;> exact Text.ofNat_ne_cons (by decide) n _

theorem numberBefore_counts (status : Status) (lead : Text) (parts : List (Nat × Status)) :
    numberBefore status.shortLabel (lead :: parts.flatMap countWords) =
      ((parts.find? fun part => part.2 = status).map (·.1)).getD 0 := by
  induction parts generalizing lead with
  | nil => rfl
  | cons part rest ih =>
    have hwords : (part :: rest).flatMap countWords =
        Text.ofNat part.1 :: part.2.shortLabel :: rest.flatMap countWords := rfl
    rw [hwords, numberBefore, if_neg (ofNat_ne_shortLabel part.1 status), numberBefore, List.find?_cons]
    by_cases hstatus : part.2 = status
    · simp [hstatus, Text.digitsValue_ofNat]
    · have hlabel : part.2.shortLabel ≠ status.shortLabel := fun h => hstatus (shortLabel_injective h)
      simp [hstatus, hlabel, ih]

/-- The count of a tier that is counted is the first one for it. -/
theorem find?_counts {status : Status} (h : status ≠ .widely) (findings : List Finding) :
    (((counts findings).find? fun part => part.2 = status).map (·.1)).getD 0 = count status findings := by
  unfold counts
  cases status with
  | widely => exact absurd rfl h
  | limited =>
    by_cases hl : count .limited findings = 0 <;> by_cases hn : count .newly findings = 0 <;> simp [hl, hn]
  | newly =>
    by_cases hl : count .limited findings = 0 <;> by_cases hn : count .newly findings = 0 <;> simp [hl, hn]

/-- The counts that a summary shows are the numbers of findings. -/
theorem shown_summary {status : Status} (h : status ≠ .widely) (findings : List Finding) :
    shown status (summary findings) = count status findings := by
  have hlead (s : Text) : Text.fields isGap ("Baseline Lite: " ++ s) =
      "Baseline".toList :: "Lite:".toList :: Text.fields isGap s := by
    have hwords : Text.fields isGap "Baseline Lite:" = ["Baseline".toList, "Lite:".toList] := by
      decide +kernel
    have hspace : "Baseline Lite: ".toList = "Baseline Lite:".toList ++ [' '] := by decide +kernel
    rw [hspace, List.append_assoc, List.singleton_append, Text.fields_cut isGap_space, hwords]
    rfl
  have hword : "Lite:".toList ≠ status.shortLabel := by cases status <;> decide
  rw [← find?_counts h, shown, summary]
  split
  · rename_i hnone
    rw [hnone]
    cases status <;> rfl
  · rw [hlead, fields_counts, numberBefore, if_neg hword, numberBefore_counts]

/-- The summary without counts is the one for no findings of the tiers that are counted. -/
theorem summary_eq_ok_iff (findings : List Finding) :
    summary findings = "Baseline: OK".toList ↔
      count .limited findings = 0 ∧ count .newly findings = 0 := by
  constructor
  · intro h
    have hlimited := shown_summary (by decide : Status.limited ≠ .widely) findings
    have hnewly := shown_summary (by decide : Status.newly ≠ .widely) findings
    rw [h] at hlimited hnewly
    exact ⟨hlimited.symm, hnewly.symm⟩
  · rintro ⟨hl, hn⟩
    simp [summary, counts, hl, hn]

/-! ### Characters of a summary -/

/-- The letters, digits and marks that summaries are written with. -/
def isSummaryChar (c : Char) : Bool :=
  c.isAlphanum || c == ' ' || c == ',' || c == ':'

theorem all_join {p : Char → Bool} {sep : Text} (hsep : sep.all p = true) {parts : List Text}
    (h : ∀ s ∈ parts, s.all p = true) : (Text.join sep parts).all p = true := by
  induction parts with
  | nil => rfl
  | cons s rest ih =>
    have hs := h s (List.mem_cons_self ..)
    cases rest with
    | nil => exact hs
    | cons t rest =>
      rw [Text.join_cons (by simp), List.all_append, List.all_append, hs, hsep,
        ih fun s hs => h s (List.mem_cons_of_mem _ hs)]
      rfl

theorem all_summary (findings : List Finding) : (summary findings).all isSummaryChar = true := by
  have hcount : ∀ part : Nat × Status,
      (Text.ofNat part.1 ++ " " ++ part.2.shortLabel).all isSummaryChar = true := fun part => by
    have hdigits : (Text.ofNat part.1).all isSummaryChar = true := List.all_eq_true.mpr fun c hc => by
      simp [isSummaryChar, Char.isAlphanum, Text.isDigit_of_mem_ofNat hc]
    have hlabel : part.2.shortLabel.all isSummaryChar = true := by cases part.2 <;> rfl
    rw [List.all_append, List.all_append, hdigits, hlabel]
    rfl
  unfold summary
  split
  · rfl
  · rw [List.all_append, all_join (by rfl) fun s hs => by
      obtain ⟨part, -, rfl⟩ := List.mem_map.mp hs
      exact hcount part]
    rfl

end Report

end WebBaseline
