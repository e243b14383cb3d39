import WebBaseline.Proofs.Markup.Excerpt
import WebBaseline.Proofs.Markup.Masking
import WebBaseline.Proofs.Markup.Suppression

/-! Documents one behind the other.

A scan reads a document as a whole: its comments, its tags, its foreign content and its lines. Where a
document ends with a line, closes its comments, its tags and its foreign elements, all four stop at its
end. Comments are masked apart (`mask_append`), every bracket finds its partner (`closes_of_brackets`), the
foreign tags behind count from zero (`scannedTags_append`), and so do the positions
(`tagConstructs_move`). `scan_behind` puts this together: the scan of two documents, one behind the other,
reports what both report, the second one further down. -/
namespace WebBaseline.Markup

open ForeignTag (step depth)

/-! ### Brackets -/

/-- Behind every opening bracket stands a closing one. This is asked of masked documents: a bracket in a
comment closes nothing. -/
def BracketsClosed (s : Text) : Prop :=
  ∀ i : Nat, s[i]? = some '<' → ∃ j, i < j ∧ s[j]? = some '>'

theorem bracketsClosed_iff {s : Text} : BracketsClosed s ↔
    ∀ i < s.length, s[i]? = some '<' → ∃ j < s.length, i < j ∧ s[j]? = some '>' := by
  constructor
  · intro h i _ hopen
    obtain ⟨j, hj, hclose⟩ := h i hopen
    exact ⟨j, (List.getElem?_eq_some_iff.mp hclose).1, hj, hclose⟩
  · intro h i hopen
    obtain ⟨j, -, hj⟩ := h i (List.getElem?_eq_some_iff.mp hopen).1 hopen
    exact ⟨j, hj⟩

instance (s : Text) : Decidable (BracketsClosed s) :=
  decidable_of_iff' _ bracketsClosed_iff

theorem BracketsClosed.mem_of_suffix {s u : Text} (h : BracketsClosed s) (hu : '<' :: u <:+ s) :
    '>' ∈ u := by
  obtain ⟨before, rfl⟩ := hu
  obtain ⟨j, hj, hclose⟩ := h before.length (by simp)
  obtain ⟨k, rfl⟩ := Nat.exists_eq_add_of_lt hj
  rw [List.getElem?_append_right (by omega),
    show before.length + k + 1 - before.length = k + 1 by omega, List.getElem?_cons_succ] at hclose
  exact List.mem_of_getElem? hclose

/-- A recogniser that starts at an opening bracket and needs to see a closing one, but nothing behind
that, closes where brackets do. -/
theorem closes_of_brackets {α : Type} {r : Text.Recogniser α}
    (hopen : ∀ {c}, c ≠ '<' → ∀ s, r (c :: s) = none)
    (hdecides : ∀ {s : Text}, '>' ∈ s → ∀ t, r (s ++ t) = r s)
    (hinside : ∀ {s n value}, r s = some (n, value) → n ≤ s.length) {s : Text}
    (h : BracketsClosed s) : Text.Matches.Closes r s where
  decides := by
    intro u hu hsuffix t
    obtain ⟨c, v, rfl⟩ := List.exists_cons_of_ne_nil hu
    by_cases hc : c = '<'
    · subst hc
      exact hdecides (List.mem_cons_of_mem _ (h.mem_of_suffix hsuffix)) t
    · rw [List.cons_append, hopen hc, hopen hc]
  inside := fun _ _ _ _ hread => hinside hread

theorem closes_tags {s : Text} (h : BracketsClosed s) : Text.Matches.Closes Tag.recognise s := by
  refine closes_of_brackets Tag.recognise_of_ne Tag.recognise_append ?_ h
  intro s n t hread
  obtain ⟨rest, rfl, hn, -⟩ := Tag.exists_of_recognise hread
  simp only [List.length_append, List.length_cons]
  omega

theorem closes_foreignTags {s : Text} (h : BracketsClosed s) :
    Text.Matches.Closes ForeignTag.recognise s := by
  refine closes_of_brackets ForeignTag.recognise_of_ne ForeignTag.recognise_append ?_ h
  intro s n t hread
  obtain ⟨body, rest, rfl, hn⟩ := ForeignTag.exists_of_recognise hread
  simp only [List.length_append, List.length_cons]
  omega

/-! ### Foreign content -/

section Foreign

variable {a b : Text}

theorem foreignTags_append (h : BracketsClosed a) :
    foreignTags (a ++ b) = foreignTags a ++ (foreignTags b).map (Text.Match.shift a.length) :=
  Text.Matches.all_append (closes_foreignTags h) b

/-- What follows opens no elements before it. -/
theorem foreignBefore_append_left (h : BracketsClosed a) {o : Nat} (ho : o ≤ a.length) :
    foreignBefore endsInSolidus (a ++ b) o = foreignBefore endsInSolidus a o := by
  have hnone : ((foreignTags b).map (Text.Match.shift a.length)).filter (·.start < o) = [] := by
    apply List.filter_eq_nil_iff.mpr
    intro m hm
    obtain ⟨n, -, rfl⟩ := List.mem_map.mp hm
    have hbehind : ¬ a.length + n.start < o := by omega
    rwa [← decide_eq_true_iff (p := a.length + n.start < o)] at hbehind
  rw [foreignBefore_eq, foreignBefore_eq, foreignTags_append h, List.filter_append, hnone,
    List.append_nil]

/-- Behind a text, all of its foreign tags come first. -/
theorem foreignBefore_append_right (h : BracketsClosed a) (o : Nat) :
    foreignBefore endsInSolidus (a ++ b) (a.length + o) =
      (foreignTags a).map (·.value) ++ foreignBefore endsInSolidus b o := by
  have hall : (foreignTags a).filter (·.start < a.length + o) = foreignTags a := by
    apply List.filter_eq_self.mpr
    intro m hm
    have hfilled := (inOrder_foreignTags a).filled m hm
    have hinside := (inOrder_foreignTags a).inside m hm
    simp only [decide_eq_true_eq]
    omega
  have hshift : ((foreignTags b).map (Text.Match.shift a.length)).filter (·.start < a.length + o) =
      ((foreignTags b).filter (·.start < o)).map (Text.Match.shift a.length) := by
    rw [List.filter_map]
    congr 2
    funext m
    simp [Text.Match.shift]
  rw [foreignBefore_eq, foreignBefore_eq, foreignTags_append h, List.filter_append, hall, hshift,
    List.map_append, List.map_map]
  rfl

/-- Behind a text that leaves no foreign element open, the depth is counted anew. -/
theorem depth_foreignBefore_append (h : BracketsClosed a)
    (hdepth : depth ((foreignTags a).map (·.value)) = 0) (o : Nat) :
    depth (foreignBefore endsInSolidus (a ++ b) (a.length + o)) =
      depth (foreignBefore endsInSolidus b o) := by
  rw [foreignBefore_append_right h, ForeignTag.depth_append, hdepth]
  rfl

end Foreign

/-- Whether a tag is passed over, by the depth where it starts. -/
theorem not_within_eq {masked : Text} {t : Text.Match Tag}
    (ht : t ∈ Text.Matches.all Tag.recognise masked) :
    (!within (foreignRanges masked) t.start) =
      decide (depth (foreignBefore endsInSolidus masked t.start) = 0) := by
  rw [Bool.eq_iff_iff, Bool.not_eq_true', ← Bool.not_eq_true, within_foreignRanges_iff ht, Nat.not_lt,
    Nat.le_zero, decide_eq_true_iff]

theorem scannedTags_append {a b : Text} (hmask : mask (a ++ b) = mask a ++ mask b)
    (h : BracketsClosed (mask a)) (hdepth : depth ((foreignTags (mask a)).map (·.value)) = 0) :
    scannedTags (a ++ b) = scannedTags a ++ (scannedTags b).map (Text.Match.shift a.length) := by
  have htags : Text.Matches.all Tag.recognise (mask a ++ mask b) =
      Text.Matches.all Tag.recognise (mask a) ++
        (Text.Matches.all Tag.recognise (mask b)).map (Text.Match.shift a.length) := by
    rw [Text.Matches.all_append (closes_tags h), length_mask]
  unfold scannedTags
  rw [hmask, htags, List.filter_append, List.filter_map]
  congr 1
  · apply List.filter_congr
    intro t ht
    have hstart := start_lt_of_mem_tags ht
    have hmem : t ∈ Text.Matches.all Tag.recognise (mask a ++ mask b) := by
      rw [htags]
      exact List.mem_append_left _ ht
    rw [not_within_eq hmem, not_within_eq ht, foreignBefore_append_left h (Nat.le_of_lt hstart)]
  · congr 1
    apply List.filter_congr
    intro t ht
    have hmem : t.shift a.length ∈ Text.Matches.all Tag.recognise (mask a ++ mask b) := by
      rw [htags]
      exact List.mem_append_right _ (List.mem_map_of_mem ht)
    have hdeep := depth_foreignBefore_append (b := mask b) h hdepth t.start
    rw [length_mask] at hdeep
    rw [Function.comp_apply, not_within_eq hmem, not_within_eq ht, ← hdeep]
    rfl

/-! ### Positions -/

section Move

variable {g : Position → Position} {s t : Text} {k stop : Nat}

/-- Stretches move with the positions of their ends. -/
theorem ofOffsets_move (h : ∀ o ≤ stop, t.position ↑(k + o) = g (s.position ↑o)) {x y : Nat}
    (hx : x ≤ stop) (hy : y ≤ stop) :
    Range.ofOffsets t (k + x) (k + y) =
      ⟨g (Range.ofOffsets s x y).start, g (Range.ofOffsets s x y).stop⟩ := by
  unfold Range.ofOffsets
  rw [h x hx, h y hy]

theorem keyMention_move (h : ∀ o ≤ stop, t.position ↑(k + o) = g (s.position ↑o)) {base : Nat}
    {a : Text.Match Attribute} {u : Text} (ha : a.value.Reads u a.length) (hstop : base + a.stop ≤ stop)
    (key : Text × Bool) :
    keyMention t (k + base) a key = (keyMention s base a key).move g := by
  rw [Text.Match.stop] at hstop
  have hle := ha.name_le
  have move : ∀ (x n : Nat) (key fallback : Text), base + (x + n) ≤ stop →
      (⟨key, Range.ofOffsets t (k + (base + x)) (k + (base + (x + n))), fallback⟩ : Mention) =
        Mention.move g ⟨key, Range.ofOffsets s (base + x) (base + (x + n)), fallback⟩ := by
    intro x n key fallback hxn
    rw [ofOffsets_move h (by omega) hxn]
    rfl
  have onName := move a.start a.value.name.length key.1 a.value.name (by omega)
  obtain ⟨key, onValue⟩ := key
  cases onValue with
  | false =>
    simp only [keyMention, Nat.add_assoc]
    exact onName
  | true =>
    cases hvalue : a.value.value with
    | none =>
      simp only [keyMention, hvalue, Nat.add_assoc]
      exact onName
    | some value =>
      obtain ⟨start, raw⟩ := value
      have hraw := (ha.value start raw hvalue).2
      have onRaw := move (a.start + start) raw.length key (a.value.name ++ "=\"" ++ raw ++ "\"")
        (by omega)
      simp only [Nat.add_assoc] at onRaw
      simp only [keyMention, hvalue, Nat.add_assoc]
      exact onRaw

/-- The constructs of a tag move with its document. -/
theorem tagConstructs_move {masked : Text} {m : Text.Match Tag}
    (hm : m ∈ Text.Matches.all Tag.recognise masked)
    (h : ∀ o ≤ m.stop, t.position ↑(k + o) = g (s.position ↑o)) :
    tagConstructs t (m.shift k) = (tagConstructs s m).map (List.map (Mention.move g)) := by
  obtain ⟨-, -, -, hstop⟩ := of_mem_tags hm
  rw [innerStart] at hstop
  have htag : tagMention t (m.shift k) = (tagMention s m).move g := by
    have hrange := ofOffsets_move h (x := m.start + 1) (y := m.start + 1 + m.value.name.length)
      (by omega) (by omega)
    simp only [tagMention, Text.Match.shift, Mention.move, Nat.add_assoc k]
    rw [hrange]
  unfold tagConstructs
  rw [htag, List.map_cons, List.map_map]
  congr 1
  apply List.map_congr_left
  intro a ha
  obtain ⟨before, rest, -, -, hread⟩ := Text.Matches.exists_of_mem_all ha
  have hle : a.stop ≤ m.value.inner.length := stop_le_of_mem_attributes (t := m) ha
  simp only [Text.Match.shift, Nat.add_assoc k, Function.comp_apply, attributeMentions, List.map_map]
  apply List.map_congr_left
  intro key hkey
  exact keyMention_move h (Attribute.reads_of_recognise hread) (by omega) key

end Move

/-! ### Two documents -/

theorem apart_of_getLast? {a : Text} (h : a.getLast? = some '\n') (b : Text) : Apart a b := by
  intro u v huv hu _ hsuffix _
  obtain ⟨before, rfl⟩ := hsuffix
  rw [List.getLast?_append, List.getLast?_eq_some_getLast hu, Option.some_or, Option.some.injEq] at h
  have hmem : '\n' ∈ u ++ v := List.mem_append_left _ (h ▸ List.getLast_mem hu)
  rw [huv] at hmem
  exact absurd hmem (by decide)

/-- A tag of a document ends inside of it. -/
theorem stop_le_of_mem_tags {masked : Text} {m : Text.Match Tag}
    (hm : m ∈ Text.Matches.all Tag.recognise masked) : m.stop ≤ masked.length := by
  obtain ⟨before, rest, rfl, hstart, hread⟩ := Text.Matches.exists_of_mem_all hm
  obtain ⟨behind, rfl, hlen, -⟩ := Tag.exists_of_recognise hread
  simp only [Text.Match.stop, List.length_append, List.length_cons]
  omega

theorem constructs_append {a b : Text} (hbreak : a.getLast? = some '\n')
    (hcomments : ∀ c ∈ comments a, c.value = true) (hbrackets : BracketsClosed (mask a))
    (hdepth : depth ((foreignTags (mask a)).map (·.value)) = 0) :
    constructs (a ++ b) =
      constructs a ++ (constructs b).map (List.map (Mention.move (Position.down (a.count '\n')))) := by
  have hmask := mask_append hcomments (apart_of_getLast? hbreak b)
  have hfirst : ∀ m ∈ scannedTags a, tagConstructs (a ++ b) m = tagConstructs a m := by
    intro m hm
    have htag := mem_tags_of_scanned hm
    have hstop := stop_le_of_mem_tags htag
    rw [length_mask] at hstop
    have hstay : ∀ o ≤ m.stop, (a ++ b).position ↑(0 + o) = id (a.position ↑o) := by
      intro o ho
      rw [Nat.zero_add]
      exact Text.position_append_left (by omega) b
    have hmove := tagConstructs_move htag hstay
    have hid : List.map (Mention.move id) = id := List.map_id_fun
    rwa [Text.Match.shift_zero, hid, List.map_id] at hmove
  have hsecond : ∀ m ∈ scannedTags b, tagConstructs (a ++ b) (m.shift a.length) =
      (tagConstructs b m).map (List.map (Mention.move (Position.down (a.count '\n')))) := by
    intro m hm
    exact tagConstructs_move (mem_tags_of_scanned hm) fun o _ => Text.position_append_right hbreak b o
  unfold constructs
  rw [scannedTags_append hmask hbrackets hdepth, List.flatMap_append, List.flatMap_map, List.map_flatMap,
    List.flatMap_congr hfirst, List.flatMap_congr hsecond]

/-- **Documents can be put one behind the other.** A document that ends with a line and leaves no comment,
no bracket and no foreign element open neither changes what is found behind it nor is changed by that. -/
theorem scan_behind (a b : Text) (index : Index) (hbreak : a.getLast? = some '\n')
    (hcomments : ∀ c ∈ comments a, c.value = true) (hbrackets : BracketsClosed (mask a))
    (hdepth : depth ((foreignTags (mask a)).map (·.value)) = 0) :
    scan (a ++ b) index =
      scan a index ++ (scan b index).map (Finding.move (Position.down (a.count '\n'))) := by
  rw [scan_eq_constructs, scan_eq_constructs, scan_eq_constructs,
    constructs_append hbreak hcomments hbrackets hdepth, List.filterMap_append, List.filterMap_map,
    List.map_filterMap]
  congr 2
  funext ms
  exact Mention.firstFinding?_move index.markup _ ms

/-- A document with a comment, a stray closing tag and an element, before one that is left open. -/
theorem scan_behind_popover :
    let a : Text := "<!--<p\n--></svg><svg><p popover></svg><p popover>\r\n"
    let b : Text := "<p\npopover><!--<svg>"
    let index : Index := { markup := [("popover", { id := "popover", name := [], status := .newly })] }
    a.getLast? = some '\n' ∧ (∀ c ∈ comments a, c.value = true) ∧ BracketsClosed (mask a) ∧
      depth ((foreignTags (mask a)).map (·.value)) = 0 ∧
      scan (a ++ b) index =
        scan a index ++ (scan b index).map (Finding.move (Position.down (a.count '\n'))) ∧
      scan (a ++ b) index = [⟨Range.onLine 1 34 41, .newly, "popover", "popover"⟩,
        ⟨Range.onLine 3 0 7, .newly, "popover", "popover"⟩] := by
  intro a b index
  have hbreak : a.getLast? = some '\n' := by decide
  have hcomments : ∀ c ∈ comments a, c.value = true := by decide +kernel
  have hbrackets : BracketsClosed (mask a) := by decide +kernel
  have hdepth : depth ((foreignTags (mask a)).map (·.value)) = 0 := by decide +kernel
  exact ⟨hbreak, hcomments, hbrackets, hdepth, scan_behind a b index hbreak hcomments hbrackets hdepth,
    by decide +kernel⟩

/-- A bracket in a comment does not keep a tag from going on behind the document. -/
example :
    let a : Text := "<p<!-->-->\n"
    let index : Index := { markup := [("popover", { id := "popover", name := [], status := .newly })] }
    ¬ BracketsClosed (mask a) ∧ scan a index = [] ∧ scan " popover>" index = [] ∧
      scan (a ++ " popover>".toList) index = [⟨Range.onLine 1 1 8, .newly, "popover", "popover"⟩] := by
  decide +kernel

end WebBaseline.Markup
