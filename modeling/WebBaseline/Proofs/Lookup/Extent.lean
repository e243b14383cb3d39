import Mathlib.Data.List.Chain
import WebBaseline.Proofs.Lookup.Column

/-! How far a word reaches.

In a word, marks stand behind marks only, and a full stop stands between two characters of names (`Follows`). So a
text that is a word itself is the start of the word at its place, unless what stands before could go on into it.
What the word has more is the whole run of names behind it, and there is none if what stands behind neither goes on
with a name nor with a full stop and a name (`exists_wordAt`). -/
namespace WebBaseline.Lookup

/-! ### Side by side -/

/-- Which characters may stand side by side in a word. -/
inductive Follows : Char → Char → Prop where
  | mark {c d : Char} (hc : isMark c = true) (hd : isMark d = true ∨ Text.isNameChar d = true) : Follows c d
  | name {c d : Char} (hc : Text.isNameChar c = true) (hd : isInner d = true) : Follows c d
  | dot {d : Char} (hd : Text.isNameChar d = true) : Follows '.' d

namespace Follows

variable {c d : Char}

/-- What stands before is part of a word, and a mark if it stands before one. -/
theorem left (h : Follows c d) : (isMark c = true ∨ isInner c = true) ∧ (isMark d = true → isMark c = true) := by
  cases h with
  | mark hc => exact ⟨.inl hc, fun _ => hc⟩
  | name hc hd =>
    refine ⟨.inr (by simp [isInner, hc]), fun hmark => ?_⟩
    rw [isMark_of_isInner hd] at hmark
    cases hmark
  | dot hd =>
    refine ⟨.inr rfl, fun hmark => ?_⟩
    rw [isMark_eq_false (.inl hd)] at hmark
    cases hmark

/-- Behind a name stands no mark. -/
theorem of_name (h : Follows c d) (hc : Text.isNameChar c = true) : isInner d = true := by
  cases h with
  | mark hmark =>
    rw [isMark_eq_false (.inl hc)] at hmark
    cases hmark
  | name _ hd => exact hd
  | dot hd => simp [isInner, hd]

/-- Behind a full stop stands a name. -/
theorem of_dot (h : Follows '.' d) : Text.isNameChar d = true := by
  cases h with
  | mark hmark => exact absurd hmark (by decide)
  | name hname => exact absurd hname (by decide +kernel)
  | dot hd => exact hd

end Follows

theorem IsPart.isChain {name : Text} (h : IsPart name) : name.IsChain Follows :=
  (List.pairwise_of_forall_mem_list fun c hc d hd => Follows.name (h.chars c hc) (h.isInner d hd)).isChain

theorem IsPart.head?_dotted {name : Text} (h : IsPart name) (more : List Text) :
    ∀ d ∈ (name ++ dotted more).head?, Text.isNameChar d = true := by
  intro d hd
  rw [List.head?_append, List.head?_eq_some_head h.ne_nil] at hd
  exact Option.some.inj hd ▸ h.chars _ (List.head_mem _)

theorem isChain_names {name : Text} {more : List Text} (hname : IsPart name) (hmore : ∀ n ∈ more, IsPart n) :
    (name ++ dotted more).IsChain Follows ∧ ∀ c ∈ (name ++ dotted more).getLast?, Text.isNameChar c = true := by
  induction more generalizing name with
  | nil =>
    rw [dotted, List.flatMap_nil, List.append_nil]
    exact ⟨hname.isChain, fun c hc => hname.chars c (List.mem_of_getLast? hc)⟩
  | cons n more ih =>
    obtain ⟨hn, hmore⟩ := List.forall_mem_cons.mp hmore
    obtain ⟨hchain, hlast⟩ := ih hn hmore
    rw [dotted_cons]
    constructor
    · refine List.isChain_append.mpr ⟨hname.isChain, List.isChain_cons.mpr ⟨fun d hd => ?_, hchain⟩, ?_⟩
      · exact .dot (hn.head?_dotted more d hd)
      · intro c hc d hd
        cases hd
        exact .name (hname.chars c (List.mem_of_getLast? hc)) rfl
    · intro c hc
      have hne : n ++ dotted more ≠ [] := List.append_ne_nil_of_left_ne_nil hn.ne_nil _
      rw [← List.singleton_append, ← List.append_assoc, List.getLast?_append_of_ne_nil _ hne] at hc
      exact hlast c hc

/-- A word has no other neighbours, and ends with a name. -/
theorem IsWord.isChain {w : Text} (h : IsWord w) :
    w.IsChain Follows ∧ ∀ c ∈ w.getLast?, Text.isNameChar c = true := by
  obtain ⟨lead, name, more, hspells⟩ := h
  obtain ⟨hchain, hlast⟩ := isChain_names hspells.name hspells.more
  have hmarks := hspells.marks
  rw [hspells.text_eq]
  constructor
  · refine List.isChain_append.mpr ⟨List.Pairwise.isChain ?_, hchain, fun c hc d hd => ?_⟩
    · exact List.pairwise_of_forall_mem_list fun c hc d hd => .mark (hmarks c hc) (.inl (hmarks d hd))
    · exact .mark (hmarks c (List.mem_of_getLast? hc)) (.inr (hspells.name.head?_dotted more d hd))
  · intro c hc
    rw [List.getLast?_append_of_ne_nil _ (List.append_ne_nil_of_left_ne_nil hspells.name.ne_nil _)] at hc
    exact hlast c hc

/-! ### Longer words -/

theorem IsPart.append {a b : Text} (ha : IsPart a) (hb : ∀ c ∈ b, Text.isNameChar c = true) : IsPart (a ++ b) where
  ne_nil := List.append_ne_nil_of_left_ne_nil ha.ne_nil b
  chars := List.forall_mem_append.mpr ⟨ha.chars, hb⟩

theorem dotted_append (names more : List Text) : dotted (names ++ more) = dotted names ++ dotted more :=
  List.flatMap_append

theorem IsWord.marks_append {lead w : Text} (hlead : ∀ c ∈ lead, isMark c = true) (h : IsWord w) :
    IsWord (lead ++ w) := by
  obtain ⟨marks, name, more, hspells⟩ := h
  exact ⟨lead ++ marks, name, more, by rw [hspells.text_eq, List.append_assoc],
    List.forall_mem_append.mpr ⟨hlead, hspells.marks⟩, hspells.name, hspells.more⟩

theorem IsWord.append_name {w name : Text} (h : IsWord w) (hname : ∀ c ∈ name, Text.isNameChar c = true) :
    IsWord (w ++ name) := by
  obtain ⟨lead, first, more, hspells⟩ := h
  obtain rfl | ⟨front, last, rfl⟩ := List.eq_nil_or_concat' more
  · refine ⟨lead, first ++ name, [], ?_, hspells.marks, hspells.name.append hname, by simp⟩
    rw [hspells.text_eq]
    simp [dotted]
  · obtain ⟨hfront, hlast⟩ := List.forall_mem_append.mp hspells.more
    have hpart : IsPart (last ++ name) := (hlast last (List.mem_singleton_self _)).append hname
    refine ⟨lead, first, front ++ [last ++ name], ?_, hspells.marks, hspells.name,
      List.forall_mem_append.mpr ⟨hfront, by simpa using hpart⟩⟩
    rw [hspells.text_eq]
    simp [dotted]

theorem IsWord.append_dotted {w : Text} {names : List Text} (h : IsWord w) (hnames : ∀ n ∈ names, IsPart n) :
    IsWord (w ++ dotted names) := by
  obtain ⟨lead, first, more, hspells⟩ := h
  refine ⟨lead, first, more ++ names, ?_, hspells.marks, hspells.name,
    List.forall_mem_append.mpr ⟨hspells.more, hnames⟩⟩
  rw [hspells.text_eq, dotted_append]
  simp

/-! ### Going on -/

/-- A word that ends before the text goes on into it: with a character of a name, or with a full stop and one. -/
def goesOn : Text → Bool
  | [] => false
  | '.' :: s => s.head?.any Text.isNameChar
  | c :: _ => Text.isNameChar c

theorem goesOn_of_name {c : Char} (hc : Text.isNameChar c = true) (s : Text) : goesOn (c :: s) = true := by
  rw [goesOn]
  · exact hc
  · intro hdot
    exact absurd (hdot ▸ hc) (by decide +kernel)

theorem goesOn_eq_false {rest : Text} (h : ∀ c ∈ rest.head?, isInner c = false) : goesOn rest = false := by
  cases rest with
  | nil => rfl
  | cons c s =>
    have hc := h c rfl
    simp only [isInner, Bool.or_eq_false_iff, beq_eq_false_iff_ne] at hc
    rw [goesOn]
    · exact hc.1
    · exact hc.2

theorem IsWord.goesOn_iff {w : Text} (h : IsWord w) {rest : Text} :
    goesOn rest = true ↔ ∃ tail, tail ≠ [] ∧ tail <+: rest ∧ IsWord (w ++ tail) := by
  constructor
  · intro hgoes
    unfold goesOn at hgoes
    split at hgoes
    · cases hgoes
    · rename_i s
      cases s with
      | nil => cases hgoes
      | cons d s =>
        have hpart : IsPart [d] := ⟨by simp, by simpa using hgoes⟩
        have hword : IsWord (w ++ dotted [[d]]) := h.append_dotted (by simpa using hpart)
        exact ⟨['.', d], by simp, ⟨s, rfl⟩, hword⟩
    · rename_i c s _
      exact ⟨[c], by simp, ⟨s, rfl⟩, h.append_name (by simpa using hgoes)⟩
  · intro ⟨tail, hne, hprefix, hword⟩
    obtain ⟨c, t, rfl⟩ := List.exists_cons_of_ne_nil hne
    obtain ⟨s, rfl⟩ := hprefix
    obtain ⟨hchain, hlast⟩ := hword.isChain
    obtain ⟨-, htail, hjoin⟩ := List.isChain_append.mp hchain
    have hend := List.getLast_mem_getLast? h.ne_nil
    have hc : isInner c = true := (hjoin _ hend c rfl).of_name (h.isChain.2 _ hend)
    by_cases hdot : c = '.'
    · subst hdot
      cases t with
      | nil => exact absurd (hlast '.' List.getLast?_concat) (by decide +kernel)
      | cons d t =>
        obtain ⟨hd, -⟩ := List.isChain_cons_cons.mp htail
        exact hd.of_dot
    · exact goesOn_of_name (by simpa [isInner, hdot] using hc) _

/-- A longest word that starts with a word has more exactly if the text goes on behind that one. -/
theorem IsLongestWord.tail_eq_nil_iff {w tail rest : Text} (h : IsLongestWord (w ++ rest) (w ++ tail)) (hw : IsWord w) :
    tail = [] ↔ goesOn rest = false := by
  rw [← Bool.not_eq_true, hw.goesOn_iff, not_exists]
  constructor
  · intro hnil longer hlonger
    obtain ⟨hne, hprefix, hword⟩ := hlonger
    have hmore := h.longest (w ++ longer) hword ((List.prefix_append_right_inj w).mpr hprefix)
    rw [hnil, List.append_nil, List.length_append] at hmore
    exact hne (List.length_eq_zero_iff.mp (by omega))
  · intro hnone
    by_contra hne
    exact hnone tail ⟨hne, (List.prefix_append_right_inj w).mp h.here, h.isWord⟩

/-- Nothing goes on behind a longest word. -/
theorem IsLongestWord.goesOn_behind {w behind : Text} (h : IsLongestWord (w ++ behind) w) : goesOn behind = false := by
  have hself : IsLongestWord (w ++ behind) (w ++ []) := by rwa [List.append_nil]
  exact (hself.tail_eq_nil_iff h.isWord).mp rfl

/-! ### The word at a place -/

section Place

variable {before w rest : Text}

/-- The word at the start of a word begins there, unless what stands before goes on into it. -/
theorem start_eq_of_covers {m : Text.Match Text} (hm : m ∈ Text.Matches.all word? (before ++ (w ++ rest)))
    (hw : w ≠ []) (hapart : ∀ c ∈ before.getLast?, ∀ d ∈ w.head?, ¬ Follows c d) (hstart : m.start ≤ before.length)
    (hstop : before.length < m.stop) : m.start = before.length := by
  refine (Nat.lt_or_eq_of_le hstart).resolve_left fun hlt => ?_
  obtain ⟨hlongest, hlength⟩ := (words_all _).longest m hm
  have hne : before ≠ [] := List.ne_nil_of_length_pos (Nat.zero_lt_of_lt hlt)
  obtain ⟨a, c, rfl⟩ := (List.eq_nil_or_concat' before).resolve_left hne
  obtain ⟨d, w, rfl⟩ := List.exists_cons_of_ne_nil hw
  refine hapart c List.getLast?_concat d rfl ?_
  -- Both characters are in the word, side by side.
  rw [Text.Match.stop, hlength] at hstop
  rw [List.length_append, List.length_singleton] at hlt hstop
  have hget := fun i hi => List.prefix_iff_getElem?.mp hlongest.here i hi
  have hc := hget (a.length - m.start) (by omega)
  have hd := hget (a.length - m.start + 1) (by omega)
  rw [List.append_assoc, List.getElem?_drop] at hc hd
  rw [show m.start + (a.length - m.start) = a.length by omega, List.getElem?_append_right (Nat.le_refl _),
    Nat.sub_self] at hc
  rw [show m.start + (a.length - m.start + 1) = a.length + 1 by omega,
    List.getElem?_append_right (Nat.le_add_right ..), Nat.add_sub_cancel_left] at hd
  have hfollows := List.isChain_iff_getElem.mp hlongest.isWord.isChain.1 (a.length - m.start) (by omega)
  rwa [← Option.some.inj hc, ← Option.some.inj hd] at hfollows

/-- The word at a place where a word stands that nothing before goes on into: that word, and what goes on behind
it. -/
theorem exists_wordAt (hw : IsWord w) (hapart : ∀ c ∈ before.getLast?, ∀ d ∈ w.head?, ¬ Follows c d)
    (rest : Text) {column : Nat} (hstart : before.length ≤ column) (hstop : column < before.length + w.length) :
    ∃ tail behind, rest = tail ++ behind ∧ wordAt (before ++ (w ++ rest)) column = some (w ++ tail) ∧
      IsWord (w ++ tail) ∧ goesOn behind = false ∧ (tail = [] ↔ goesOn rest = false) := by
  have hwords := words_all (before ++ (w ++ rest))
  have hdrop : (before ++ (w ++ rest)).drop before.length = w ++ rest := List.drop_left
  have here : w <+: w ++ rest := List.prefix_append w rest
  obtain ⟨m, hm, hle, hlt⟩ := hwords.leftmost before.length w hw (by rwa [hdrop])
  have hplace := start_eq_of_covers hm hw.ne_nil hapart hle hlt
  obtain ⟨hlongest, hlength⟩ := hwords.longest m hm
  rw [hplace, hdrop] at hlongest
  have hreach := hlongest.longest w hw here
  obtain ⟨tail, hvalue⟩ := List.prefix_of_prefix_length_le here hlongest.here hreach
  rw [← hvalue] at hlongest
  obtain ⟨behind, rfl⟩ : tail <+: rest := (List.prefix_append_right_inj w).mp hlongest.here
  have hwhole : IsLongestWord ((w ++ tail) ++ behind) (w ++ tail) := by rwa [List.append_assoc]
  refine ⟨tail, behind, rfl, ?_, hlongest.isWord, hwhole.goesOn_behind, hlongest.tail_eq_nil_iff hw⟩
  have hcovers : Covers m column := by
    rw [Covers, Text.Match.stop, hplace, hlength]
    omega
  rw [wordAt_of_covers hm hcovers, hvalue]

end Place

end WebBaseline.Lookup
