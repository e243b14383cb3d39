import Mathlib.Data.List.Pairwise
import Mathlib.Data.List.Sort
import WebBaseline.Proofs.Lookup.Word

/-! The word at a column.

The words of a line are read from left to right, each as long as it can be, and none is left out (`Words`).
Only one list is so (`Words.unique`), and the search for words finds it (`words_all`). A column selects the word
that covers it, or else the one that ends there (`Selects`). The search for it stops at the first word that
starts behind the column; `wordAt_selects` says that looking through all words gives the same. -/
namespace WebBaseline.Lookup

open Text (Match)

/-! ### The words of a line -/

/-- The words of a line: one behind the other, each the longest where it starts, and reaching wherever a word
could start. -/
structure Words (line : Text) (words : List (Match Text)) : Prop where
  apart : words.Pairwise fun m n => m.stop ≤ n.start
  longest : ∀ m ∈ words, IsLongestWord (line.drop m.start) m.value ∧ m.length = m.value.length
  leftmost : ∀ o w, IsWord w → w <+: line.drop o → ∃ m ∈ words, m.start ≤ o ∧ o < m.stop

theorem IsWord.ne_nil {w : Text} (h : IsWord w) : w ≠ [] := by
  obtain ⟨lead, name, more, hspells⟩ := h
  rw [hspells.text_eq]
  simp [hspells.name.ne_nil]

theorem length_pos_of_word? {s w : Text} {n : Nat} (h : word? s = some (n, w)) : 0 < n := by
  obtain ⟨hw, rfl⟩ := word?_eq_some_iff.mp h
  exact List.length_pos_iff.mpr hw.isWord.ne_nil

/-- The search finds the words of a line. -/
theorem words_all (line : Text) : Words line (Text.Matches.all word? line) where
  apart := Text.Matches.pairwise_all word? line
  longest := by
    intro m hm
    obtain ⟨before, rest, hline, hstart, hread⟩ := Text.Matches.exists_of_mem_all hm
    rw [hline, hstart, List.drop_left]
    exact word?_eq_some_iff.mp hread
  leftmost := by
    intro o w hw here
    have hlen := Text.add_length_le_of_prefix here hw.ne_nil
    have hpos := List.length_pos_iff.mpr hw.ne_nil
    obtain ⟨v, hv⟩ := exists_isLongestWord hw here
    have hread : word? (line.drop o) = some (v.length, v) := word?_eq_some_iff.mpr ⟨hv, rfl⟩
    exact Text.Matches.exists_mem_all (fun _ _ _ => length_pos_of_word?) (by omega) (by rw [hread]; rfl)

namespace Words

variable {line : Text} {words : List (Match Text)} {m n : Match Text}

theorem start_lt_stop (h : Words line words) (hm : m ∈ words) : m.start < m.stop := by
  obtain ⟨hlongest, hlength⟩ := h.longest m hm
  have hpos := List.length_pos_iff.mpr hlongest.isWord.ne_nil
  rw [Match.stop, hlength]
  omega

/-- Words that share a place are one. -/
theorem eq_of_overlap (h : Words line words) (hm : m ∈ words) (hn : n ∈ words) (hmn : m.start < n.stop)
    (hnm : n.start < m.stop) : m = n := by
  by_contra hne
  have hsides : words.Pairwise fun m n => m.stop ≤ n.start ∨ n.stop ≤ m.start := h.apart.imp .inl
  have : Std.Symm fun m n : Match Text => m.stop ≤ n.start ∨ n.stop ≤ m.start := ⟨fun _ _ => Or.symm⟩
  have happart := hsides.forall hm hn hne
  omega

/-- A word of a line is listed wherever the words of the line are. -/
theorem mem_of_mem {others : List (Match Text)} (h : Words line words) (h' : Words line others) (hm : m ∈ words) :
    m ∈ others := by
  -- The induction is on the start: a word of the other list that reaches the start from before is a word of
  -- this list, too, and overlaps `m`.
  induction hstart : m.start using Nat.strongRecOn generalizing words others m with
  | _ o ih =>
    obtain ⟨hlongest, hlength⟩ := h.longest m hm
    obtain ⟨n, hn, hle, hlt⟩ := h'.leftmost m.start m.value hlongest.isWord hlongest.here
    have hproper := h.start_lt_stop hm
    by_cases hbefore : n.start < m.start
    · have hback : n ∈ words := ih n.start (hstart ▸ hbefore) h' h hn rfl
      have hsame := h.eq_of_overlap hm hback (by omega) (by omega)
      rw [hsame] at hbefore
      exact absurd hbefore (Nat.lt_irrefl _)
    · have hsame : n.start = m.start := by omega
      obtain ⟨hlongest', hlength'⟩ := h'.longest n hn
      rw [hsame] at hlongest'
      have hvalue := hlongest.eq hlongest'
      have hmn : m = n := by
        cases m
        cases n
        simp only at hsame hvalue hlength hlength'
        rw [hsame, hlength, hlength', hvalue]
      exact hmn ▸ hn

/-- A line has its words in one way only. -/
theorem unique {others : List (Match Text)} (h : Words line words) (h' : Words line others) :
    words = others := by
  have hordered : ∀ {l}, Words line l → l.Pairwise fun m n => m.start < n.start := fun hl =>
    hl.apart.imp_of_mem fun hm _ hmn => Nat.lt_of_lt_of_le (hl.start_lt_stop hm) hmn
  have : Std.Irrefl fun m n : Match Text => m.start < n.start := ⟨fun _ => Nat.lt_irrefl _⟩
  exact (hordered h).eq_of_mem_iff (hordered h') fun m => ⟨h.mem_of_mem h', h'.mem_of_mem h⟩

end Words

/-- The word stands at the column. -/
def Covers (m : Match Text) (column : Int) : Prop :=
  m.start ≤ column ∧ column < m.stop

instance (m : Match Text) (column : Int) : Decidable (Covers m column) :=
  inferInstanceAs (Decidable (_ ∧ _))

/-! ### The search -/

/-- The word that a column selects, looked for among all words. -/
def chosen (column : Int) (words : List (Match Text)) : Option (Match Text) :=
  (words.find? fun m => Covers m column).or (words.find? fun m => (m.stop : Int) = column)

/-- A word behind the column does not stand or end there. -/
theorem of_lt_start {m : Match Text} {column : Int} (h : column < m.start) :
    ¬ Covers m column ∧ (m.stop : Int) ≠ column := by
  simp only [Covers, Match.stop]
  omega

section Apart

variable {words rest : List (Match Text)} {m : Match Text} {column : Int}

theorem lt_start_of_mem (hapart : (m :: rest).Pairwise fun m n => m.stop ≤ n.start) (h : column < m.start) :
    ∀ n ∈ m :: rest, column < n.start := by
  refine List.forall_mem_cons.mpr ⟨h, fun n hn => ?_⟩
  have hle := (List.pairwise_cons.mp hapart).1 n hn
  unfold Match.stop at hle
  omega

/-- Words behind the column make no difference. -/
theorem chosen_append (h : ∀ n ∈ rest, column < n.start) (before : List (Match Text)) :
    chosen column (before ++ rest) = chosen column before := by
  have hcovers : rest.find? (fun n => Covers n column) = none :=
    List.find?_eq_none.mpr fun n hn => by simpa using (of_lt_start (h n hn)).1
  have hends : rest.find? (fun n => (n.stop : Int) = column) = none :=
    List.find?_eq_none.mpr fun n hn => by simpa using (of_lt_start (h n hn)).2
  rw [chosen, List.find?_append, List.find?_append, hcovers, hends, Option.or_none, Option.or_none]
  rfl

/-- The search looks through all words, though it stops at the first one behind the column. -/
theorem wordAtFrom_eq (hproper : ∀ m ∈ words, m.start < m.stop)
    (hapart : words.Pairwise fun m n => m.stop ≤ n.start) (column : Int) (found : Option Text) :
    wordAtFrom column found words = ((chosen column words).map (·.value)).or found := by
  induction words generalizing found with
  | nil => rfl
  | cons m rest ih =>
    obtain ⟨hm, hrest⟩ := List.pairwise_cons.mp hapart
    obtain ⟨hlt, hlater⟩ := List.forall_mem_cons.mp hproper
    rw [wordAtFrom]
    by_cases hbehind : column < m.start
    · have hnone : chosen column (m :: rest) = none := chosen_append (lt_start_of_mem hapart hbehind) []
      rw [if_pos hbehind, hnone]
      rfl
    · rw [if_neg hbehind, chosen]
      by_cases hinside : column < m.stop
      · have hcovers : Covers m column := ⟨by omega, hinside⟩
        rw [if_pos hinside, List.find?_cons_of_pos (by simpa using hcovers)]
        rfl
      · have hcovers : ¬ Covers m column := fun h => hinside h.2
        rw [if_neg hinside, ih hlater hrest, chosen, List.find?_cons_of_neg (by simpa using hcovers)]
        by_cases hend : column = m.stop
        · -- No other word ends where `m` does.
          have hends : rest.find? (fun n => (n.stop : Int) = column) = none := by
            refine List.find?_eq_none.mpr fun n hn => ?_
            have := hm n hn
            have := hlater n hn
            simp only [decide_eq_true_eq]
            omega
          rw [if_pos hend, hends, List.find?_cons_of_pos (by simpa using hend.symm)]
          cases rest.find? fun n => Covers n column <;> rfl
        · rw [if_neg hend, List.find?_cons_of_neg (by simpa using Ne.symm hend)]

end Apart

theorem wordAt_eq (line : Text) (column : Int) :
    wordAt line column = (chosen column (Text.Matches.all word? line)).map (·.value) := by
  have hwords := words_all line
  rw [wordAt, wordAtFrom_eq (fun m hm => hwords.start_lt_stop hm) hwords.apart, Option.or_none]

/-! ### What a column selects -/

/-- What a column selects among words: the one that stands there, or else the one that ends there. -/
inductive Selects (words : List (Match Text)) (column : Int) : Option Text → Prop where
  | covering {m : Match Text} (hm : m ∈ words) (h : Covers m column) : Selects words column (some m.value)
  | touching {m : Match Text} (hnone : ∀ n ∈ words, ¬ Covers n column) (hm : m ∈ words) (h : m.stop = column) :
    Selects words column (some m.value)
  | nothing (hnone : ∀ n ∈ words, ¬ Covers n column) (h : ∀ n ∈ words, (n.stop : Int) ≠ column) :
    Selects words column none

theorem selects_chosen (words : List (Match Text)) (column : Int) :
    Selects words column ((chosen column words).map (·.value)) := by
  unfold chosen
  cases hcovers : words.find? fun m => Covers m column with
  | some m => exact .covering (List.mem_of_find?_eq_some hcovers) (by simpa using List.find?_some hcovers)
  | none =>
    have hnone : ∀ n ∈ words, ¬ Covers n column := by simpa using List.find?_eq_none.mp hcovers
    cases hends : words.find? fun m => (m.stop : Int) = column with
    | some m => exact .touching hnone (List.mem_of_find?_eq_some hends) (by simpa using List.find?_some hends)
    | none => exact .nothing hnone (by simpa using List.find?_eq_none.mp hends)

/-- A column selects one thing only. -/
theorem Selects.eq {line : Text} {words : List (Match Text)} {column : Int} {r t : Option Text}
    (hwords : Words line words) (hr : Selects words column r) (ht : Selects words column t) : r = t := by
  cases hr with
  | @covering m hm h =>
    cases ht with
    | @covering n hn h' =>
      unfold Covers at h h'
      rw [hwords.eq_of_overlap hm hn (by omega) (by omega)]
    | touching hnone => exact absurd h (hnone m hm)
    | nothing hnone => exact absurd h (hnone m hm)
  | @touching m hnone hm h =>
    cases ht with
    | @covering n hn h' => exact absurd h' (hnone n hn)
    | @touching n _ hn h' =>
      have hlt := hwords.start_lt_stop hm
      have hlt' := hwords.start_lt_stop hn
      rw [hwords.eq_of_overlap hm hn (by omega) (by omega)]
    | nothing _ hends => exact absurd h (hends m hm)
  | nothing hnone hends =>
    cases ht with
    | @covering n hn h' => exact absurd h' (hnone n hn)
    | @touching n _ hn h' => exact absurd h' (hends n hn)
    | nothing => rfl

theorem selects_wordAt (line : Text) (column : Int) :
    Selects (Text.Matches.all word? line) column (wordAt line column) := by
  rw [wordAt_eq]
  exact selects_chosen ..

theorem wordAt_of_covers {line : Text} {m : Match Text} {column : Int} (hm : m ∈ Text.Matches.all word? line)
    (h : Covers m column) : wordAt line column = some m.value :=
  (selects_wordAt line column).eq (words_all line) (.covering hm h)

theorem isWord_singleton {c : Char} (h : Text.isNameChar c = true) : IsWord [c] :=
  ⟨[], [c], [], rfl, by simp, ⟨by simp, by simpa using h⟩, by simp⟩

/-- A word stands wherever a character of a name does. -/
theorem Words.exists_covers {s : Text} {words : List (Match Text)} (h : Words s words) {o : Nat} {c : Char}
    (hc : c ∈ s[o]?) (hname : Text.isNameChar c = true) : ∃ m ∈ words, Covers m o := by
  have here : [c] <+: s.drop o := by
    obtain ⟨ho, rfl⟩ := List.getElem?_eq_some_iff.mp hc
    exact ⟨s.drop (o + 1), (List.drop_eq_getElem_cons ho).symm⟩
  obtain ⟨m, hm, hstart, hstop⟩ := h.leftmost o [c] (isWord_singleton hname) here
  exact ⟨m, hm, by omega, by omega⟩

/-- Without the first word behind the column and those that follow the search finds the same. -/
theorem Words.wordAtFrom_before {s : Text} {words before behind : List (Match Text)} {m : Match Text} {column : Int}
    (h : Words s words) (hsplit : words = before ++ m :: behind) (hbehind : column < m.start) :
    (∀ n ∈ m :: behind, ¬ Covers n column ∧ (n.stop : Int) ≠ column) ∧
      wordAtFrom column none before = wordAt s column := by
  have hapart := h.apart
  rw [hsplit, List.pairwise_append] at hapart
  have hlater := lt_start_of_mem hapart.2.1 hbehind
  refine ⟨fun n hn => of_lt_start (hlater n hn), ?_⟩
  have hproper : ∀ n ∈ before, n.start < n.stop := fun n hn =>
    h.start_lt_stop (hsplit ▸ List.mem_append_left _ hn)
  rw [wordAtFrom_eq hproper hapart.1, Option.or_none, wordAt_eq, ← h.unique (words_all s), hsplit,
    chosen_append hlater]

/-- **A column selects a word.** The words of a line are found, and no other list of them is right. A column
selects the word that stands there, or else the one that ends there, or else nothing. Some word stands at every
character of a name. The search may stop at the first word behind the column: neither that word nor one behind
it is what the column selects, and without them the search finds the same. -/
theorem wordAt_selects (s : Text) :
    let words := Text.Matches.all word? s
    Words s words ∧ (∀ others, Words s others → others = words) ∧
    ∀ column : Int,
      (∀ selected, wordAt s column = selected ↔ Selects words column selected) ∧
      (∀ o : Nat, column = o → ∀ c ∈ s[o]?, Text.isNameChar c = true →
        ∃ m ∈ words, Covers m column ∧ wordAt s column = some m.value) ∧
      (∀ before m behind, words = before ++ m :: behind → column < m.start →
        (∀ n ∈ m :: behind, ¬ Covers n column ∧ (n.stop : Int) ≠ column) ∧
        wordAtFrom column none before = wordAt s column) := by
  intro words
  have hwords : Words s words := words_all s
  refine ⟨hwords, fun others h => h.unique hwords, fun column => ?_⟩
  have hselects : Selects words column (wordAt s column) := selects_wordAt s column
  refine ⟨fun selected => ?_, ?_, ?_⟩
  · constructor
    · intro h
      exact h ▸ hselects
    · intro h
      exact hselects.eq hwords h
  · intro o ho c hc hname
    obtain ⟨m, hm, hcovers⟩ := hwords.exists_covers hc hname
    rw [← ho] at hcovers
    exact ⟨m, hm, hcovers, wordAt_of_covers hm hcovers⟩
  · intro before m behind hsplit hbehind
    exact hwords.wordAtFrom_before hsplit hbehind

/-- Two words side by side. The second one is selected from inside, where it begins, and from just behind it; left
of it the search stops before it. -/
theorem wordAt_selects_backdrop :
    let s : Text := "dialog::backdrop \x7b"
    let first : Match Text := ⟨0, 6, "dialog"⟩
    let second : Match Text := ⟨6, 10, "::backdrop"⟩
    Text.Matches.all word? s = [first, second] ∧
    Words s [first, second] ∧ [first, second] = Text.Matches.all word? s ∧
    (Selects [first, second] 6 (some second.value) ∧ wordAt s 6 = some second.value) ∧
    (Selects [first, second] 16 (some second.value) ∧ wordAt s 16 = some second.value) ∧
    ('a' ∈ s[9]? ∧ Text.isNameChar 'a' = true ∧
      ∃ m ∈ Text.Matches.all word? s, Covers m 9 ∧ wordAt s 9 = some m.value) ∧
    ((2 : Int) < second.start ∧ wordAtFrom 2 none [first] = wordAt s 2) := by
  intro s first second
  have hlist : Text.Matches.all word? s = [first, second] := by rfl
  obtain ⟨hwords, hunique, hcolumn⟩ := wordAt_selects s
  have hlisted : Words s [first, second] := hlist ▸ hwords
  have hbegin : Selects [first, second] 6 (some second.value) := .covering (by simp) (by decide)
  have hend : Selects [first, second] 16 (some second.value) := .touching (by decide) (by simp) rfl
  have ha : 'a' ∈ s[9]? := by rfl
  have hname : Text.isNameChar 'a' = true := by decide +kernel
  refine ⟨hlist, hlisted, hunique _ hlisted, ⟨hbegin, ?_⟩, ⟨hend, ?_⟩, ⟨ha, hname, ?_⟩, by decide, ?_⟩
  · exact ((hcolumn 6).1 _).mpr (hlist ▸ hbegin)
  · exact ((hcolumn 16).1 _).mpr (hlist ▸ hend)
  · exact (hcolumn 9).2.1 9 rfl 'a' ha hname
  · exact ((hcolumn 2).2.2 [first] second [] hlist (by decide)).2

end WebBaseline.Lookup
