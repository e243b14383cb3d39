import Mathlib.Data.List.Infix
import Mathlib.Data.List.Sort
import Mathlib.Data.List.TakeWhile
import WebBaseline.Lookup
import WebBaseline.Proofs.Text.Field

/-! The word at a column.

A word is a run of marks, a name, and further names behind full stops (`Spells`). What the search reads at a
place is the longest word there (`word?_eq_some_iff`). -/
namespace WebBaseline.Lookup

/-! ### Words -/

/-- A colon or an `@` sign. -/
def isMark (c : Char) : Bool :=
  c == '@' || c == ':'

/-- A name in a word: word characters and hyphens, one at least. -/
structure IsPart (name : Text) : Prop where
  ne_nil : name ≠ []
  chars : ∀ c ∈ name, Text.isNameChar c = true

/-- Names, each behind a full stop. -/
def dotted (names : List Text) : Text :=
  names.flatMap ('.' :: ·)

/-- The parts of a word. -/
structure Spells (w lead name : Text) (more : List Text) : Prop where
  text_eq : w = lead ++ (name ++ dotted more)
  marks : ∀ c ∈ lead, isMark c = true
  name : IsPart name
  more : ∀ n ∈ more, IsPart n

def IsWord (w : Text) : Prop :=
  ∃ lead name more, Spells w lead name more

/-- The longest word at the front of a text. -/
structure IsLongestWord (s w : Text) : Prop where
  isWord : IsWord w
  here : w <+: s
  longest : ∀ v, IsWord v → v <+: s → v.length ≤ w.length

/-! ### Names -/

theorem IsPart.dot_not_mem {name : Text} (h : IsPart name) : '.' ∉ name := by
  intro hdot
  exact absurd (h.chars _ hdot) (by decide +kernel)

theorem isMark_iff {c : Char} : isMark c = true ↔ c = '@' ∨ c = ':' := by
  simp [isMark]

theorem isMark_eq_false {c : Char} (h : Text.isNameChar c = true ∨ c = '.') : isMark c = false := by
  rcases h with h | rfl
  · apply Bool.eq_false_iff.mpr
    intro hmark
    rcases isMark_iff.mp hmark with rfl | rfl <;> exact absurd h (by decide +kernel)
  · rfl

theorem dotted_cons (name : Text) (more : List Text) : dotted (name :: more) = '.' :: (name ++ dotted more) :=
  List.flatMap_cons

/-- A name with names behind it starts with no full stop. -/
theorem IsPart.prefix_iff {name : Text} (h : IsPart name) (a : Text) (more : List Text) :
    name <+: a ++ dotted more ↔ name <+: a := by
  cases more with
  | nil => rw [dotted, List.flatMap_nil, List.append_nil]
  | cons n more =>
    rw [dotted_cons]
    exact Text.prefix_piece_iff h.dot_not_mem a _

/-- Names that stand at the front of pieces stand before the first empty one behind the front piece. -/
theorem prefix_takeWhile {name piece : Text} {more pieces : List Text} (hname : IsPart name)
    (hmore : ∀ n ∈ more, IsPart n) (hpiece : '.' ∉ piece) (hpieces : ∀ p ∈ pieces, '.' ∉ p)
    (h : name ++ dotted more <+: piece ++ dotted pieces) :
    name ++ dotted more <+: piece ++ dotted (pieces.takeWhile (!·.isEmpty)) := by
  induction more generalizing name piece pieces with
  | nil =>
    simp only [dotted, List.flatMap_nil, List.append_nil] at h ⊢
    exact ((hname.prefix_iff piece pieces).mp h).trans (List.prefix_append ..)
  | cons n more ih =>
    obtain ⟨hn, hmore⟩ := List.forall_mem_cons.mp hmore
    obtain ⟨rest, hrest⟩ := h
    rw [dotted_cons, List.append_assoc, List.cons_append] at hrest
    cases pieces with
    | nil =>
      simp only [dotted, List.flatMap_nil, List.append_nil] at hrest
      exact absurd (hrest ▸ by simp) hpiece
    | cons p pieces =>
      obtain ⟨hp, hpieces⟩ := List.forall_mem_cons.mp hpieces
      rw [dotted_cons] at hrest
      obtain ⟨rfl, -, hbehind⟩ := Text.eq_of_piece_eq (p := (· == '.')) (Text.not_mem_iff_free.mp hname.dot_not_mem)
        (Text.not_mem_iff_free.mp hpiece) rfl rfl hrest
      have hfront : n ++ dotted more <+: p ++ dotted pieces := ⟨rest, hbehind⟩
      have hnp : n <+: p := (hn.prefix_iff p pieces).mp ((List.prefix_append n _).trans hfront)
      have hkeep : (!p.isEmpty) = true := by
        cases p with
        | nil => exact absurd (List.prefix_nil.mp hnp) hn.ne_nil
        | cons c t => rfl
      rw [List.takeWhile_cons_of_pos (p := fun q : Text => !q.isEmpty) hkeep, dotted_cons, dotted_cons,
        List.prefix_append_right_inj, List.cons_prefix_cons]
      exact ⟨rfl, ih hn hmore hp hpieces hfront⟩

/-! ### What is read at a place -/

/-- A character of a word behind its marks. -/
def isInner (c : Char) : Bool :=
  Text.isNameChar c || c == '.'

theorem isMark_of_isInner {c : Char} (h : isInner c = true) : isMark c = false :=
  isMark_eq_false (by simpa [isInner] using h)

theorem IsPart.isInner {name : Text} (h : IsPart name) : ∀ c ∈ name, isInner c = true := by
  intro c hc
  simp [Lookup.isInner, h.chars c hc]

theorem isInner_of_mem {name : Text} {more : List Text} (hname : IsPart name) (hmore : ∀ n ∈ more, IsPart n) :
    ∀ c ∈ name ++ dotted more, isInner c = true := by
  intro c hc
  rcases List.mem_append.mp hc with hc | hc
  · exact hname.isInner c hc
  · obtain ⟨n, hn, hc⟩ := List.mem_flatMap.mp hc
    rcases List.mem_cons.mp hc with rfl | hc
    · rfl
    · exact (hmore n hn).isInner c hc

theorem word?_eq (s : Text) :
    word? s =
      let names := (Text.splitBy (· == '.') ((s.dropWhile isMark).takeWhile isInner)).takeWhile (!·.isEmpty)
      if names.isEmpty then none
      else
        let word := s.takeWhile isMark ++ Text.join "." names
        some (word.length, word) := by
  have hdrop : s.drop (s.takeWhile isMark).length = s.dropWhile isMark := by
    calc s.drop (s.takeWhile isMark).length
        = (s.takeWhile isMark ++ s.dropWhile isMark).drop (s.takeWhile isMark).length := by
          rw [List.takeWhile_append_dropWhile]
      _ = s.dropWhile isMark := List.drop_left
  rw [← hdrop]
  rfl

/-- The word at the front of a text, read from the pieces between full stops of what stands behind the
marks. -/
theorem exists_pieces (s : Text) :
    ∃ piece pieces, piece ++ dotted pieces = (s.dropWhile isMark).takeWhile isInner ∧ '.' ∉ piece ∧
      (∀ p ∈ pieces, '.' ∉ p) ∧
      word? s = if piece = [] then none else
        let word := s.takeWhile isMark ++ (piece ++ dotted (pieces.takeWhile (!·.isEmpty)))
        some (word.length, word) := by
  obtain ⟨piece, pieces, hsplit⟩ :=
    List.exists_cons_of_ne_nil (Text.splitBy_ne_nil (· == '.') ((s.dropWhile isMark).takeWhile isInner))
  have hfree : ∀ p ∈ piece :: pieces, '.' ∉ p := fun p hp =>
    Text.not_mem_iff_free.mpr (Text.free_of_mem_splitBy (hsplit ▸ hp))
  obtain ⟨hpiece, hpieces⟩ := List.forall_mem_cons.mp hfree
  refine ⟨piece, pieces, ?_, hpiece, hpieces, ?_⟩
  · have hjoin := Text.join_splitOn '.' ((s.dropWhile isMark).takeWhile isInner)
    rwa [Text.splitOn, hsplit, Text.join_eq_flatMap] at hjoin
  · rw [word?_eq, hsplit]
    cases piece with
    | nil => rfl
    | cons c piece =>
      rw [List.takeWhile_cons_of_pos (by rfl), if_neg (List.cons_ne_nil c piece)]
      have hjoin : Text.join "." ((c :: piece) :: pieces.takeWhile (!·.isEmpty)) =
          c :: piece ++ dotted (pieces.takeWhile (!·.isEmpty)) := Text.join_eq_flatMap '.' _ _
      simp only [hjoin]
      rfl

/-- A word at the front of a text has the marks there, and its names stand behind them. -/
theorem Spells.front {w lead name : Text} {more : List Text} (h : Spells w lead name more) {s : Text}
    (hw : w <+: s) :
    lead = s.takeWhile isMark ∧ name ++ dotted more <+: (s.dropWhile isMark).takeWhile isInner := by
  obtain ⟨rest, rfl⟩ := hw
  obtain ⟨c, t, hname⟩ := List.exists_cons_of_ne_nil h.name.ne_nil
  have hc : isMark c = false := isMark_eq_false (.inl (h.name.chars c (hname ▸ List.mem_cons_self ..)))
  have hinner := isInner_of_mem h.name h.more
  have htext : w ++ rest = lead ++ c :: (t ++ dotted more ++ rest) := by
    rw [h.text_eq, hname]
    simp
  have hbehind : c :: (t ++ dotted more ++ rest) = name ++ dotted more ++ rest := by
    rw [hname]
    simp
  rw [htext, Text.takeWhile_run h.marks hc, Text.dropWhile_run h.marks hc, hbehind,
    List.takeWhile_append_of_pos hinner]
  exact ⟨rfl, List.prefix_append ..⟩

theorem IsLongestWord.eq {s v w : Text} (hv : IsLongestWord s v) (hw : IsLongestWord s w) : v = w :=
  (List.prefix_of_prefix_length_le hv.here hw.here (hw.longest v hv.isWord hv.here)).eq_of_length_le
    (hv.longest w hw.isWord hw.here)

section Pieces

variable {s piece : Text} {pieces : List Text}

/-- Where a word stands, the piece in front is not empty. -/
theorem ne_nil_of_isWord (hbody : piece ++ dotted pieces = (s.dropWhile isMark).takeWhile isInner) {w : Text}
    (hw : IsWord w) (here : w <+: s) : piece ≠ [] := by
  obtain ⟨lead, name, more, hspells⟩ := hw
  obtain ⟨-, hfront⟩ := hspells.front here
  rw [← hbody] at hfront
  have hname := (hspells.name.prefix_iff piece pieces).mp ((List.prefix_append name _).trans hfront)
  intro hnil
  rw [hnil] at hname
  exact hspells.name.ne_nil (List.prefix_nil.mp hname)

theorem isPart_of_mem (hbody : piece ++ dotted pieces = (s.dropWhile isMark).takeWhile isInner) {p : Text}
    (hp : p ∈ piece :: pieces) (hne : p ≠ []) (hdot : '.' ∉ p) : IsPart p := by
  refine ⟨hne, fun c hc => ?_⟩
  have hmem : c ∈ piece ++ dotted pieces := by
    rcases List.mem_cons.mp hp with rfl | hp
    · exact List.mem_append_left _ hc
    · exact List.mem_append_right _ (List.mem_flatMap.mpr ⟨p, hp, List.mem_cons_of_mem _ hc⟩)
  have hinner : isInner c = true := List.mem_takeWhile_imp (hbody ▸ hmem)
  simp only [isInner, Bool.or_eq_true, beq_iff_eq] at hinner
  exact hinner.resolve_right fun he => hdot (he ▸ hc)

/-- The marks, the piece in front and the pieces up to the first empty one are the longest word. -/
theorem isLongestWord_pieces (hbody : piece ++ dotted pieces = (s.dropWhile isMark).takeWhile isInner)
    (hne : piece ≠ []) (hpiece : '.' ∉ piece) (hpieces : ∀ p ∈ pieces, '.' ∉ p) :
    IsLongestWord s (s.takeWhile isMark ++ (piece ++ dotted (pieces.takeWhile (!·.isEmpty)))) where
  isWord := by
    refine ⟨s.takeWhile isMark, piece, pieces.takeWhile (!·.isEmpty), rfl,
      fun c hc => List.mem_takeWhile_imp hc, isPart_of_mem hbody (List.mem_cons_self ..) hne hpiece, ?_⟩
    intro n hn
    have hmem := (List.takeWhile_prefix _).subset hn
    have hfilled := List.mem_takeWhile_imp hn
    exact isPart_of_mem hbody (List.mem_cons_of_mem _ hmem) (by simpa using hfilled) (hpieces n hmem)
  here := by
    obtain ⟨rest, hrest⟩ := List.takeWhile_prefix (fun p : Text => !p.isEmpty) (l := pieces)
    have hkept : dotted (pieces.takeWhile (!·.isEmpty)) <+: dotted pieces :=
      ⟨dotted rest, by rw [dotted, dotted, ← List.flatMap_append, hrest, dotted]⟩
    have hbehind := ((List.prefix_append_right_inj piece).mpr hkept).trans
      (hbody ▸ List.takeWhile_prefix isInner)
    have hwhole := (List.prefix_append_right_inj (s.takeWhile isMark)).mpr hbehind
    rwa [List.takeWhile_append_dropWhile] at hwhole
  longest := by
    intro v ⟨lead, name, more, hspells⟩ hfront
    obtain ⟨hlead, hnames⟩ := hspells.front hfront
    rw [← hbody] at hnames
    have hle := (prefix_takeWhile hspells.name hspells.more hpiece hpieces hnames).length_le
    rw [hspells.text_eq, hlead]
    simp only [List.length_append] at hle ⊢
    omega

end Pieces

/-- A word is read just if it is the longest one at the front of the text. -/
theorem word?_eq_some_iff {s w : Text} {n : Nat} :
    word? s = some (n, w) ↔ IsLongestWord s w ∧ n = w.length := by
  obtain ⟨piece, pieces, hbody, hpiece, hpieces, hread⟩ := exists_pieces s
  rw [hread]
  by_cases hnil : piece = []
  · rw [if_pos hnil]
    constructor
    · intro h
      cases h
    · intro ⟨hw, _⟩
      exact absurd hnil (ne_nil_of_isWord hbody hw.isWord hw.here)
  · rw [if_neg hnil]
    have hlongest := isLongestWord_pieces hbody hnil hpiece hpieces
    constructor
    · intro h
      cases h
      exact ⟨hlongest, rfl⟩
    · intro ⟨hw, hn⟩
      rw [hn, hw.eq hlongest]

/-- Where a word stands, a longest one does. -/
theorem exists_isLongestWord {s v : Text} (hv : IsWord v) (here : v <+: s) : ∃ w, IsLongestWord s w := by
  obtain ⟨piece, pieces, hbody, hpiece, hpieces, -⟩ := exists_pieces s
  exact ⟨_, isLongestWord_pieces hbody (ne_nil_of_isWord hbody hv here) hpiece hpieces⟩

end WebBaseline.Lookup
