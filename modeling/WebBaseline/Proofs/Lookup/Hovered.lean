import Mathlib.Data.List.DropRight
import WebBaseline.Proofs.Lookup.Extent
import WebBaseline.Proofs.Lookup.Marked
import WebBaseline.Proofs.Scan.Soundness
import WebBaseline.Proofs.Stylesheet.Surroundings
import WebBaseline.Proofs.Text.Name

/-! The word at a finding.

A style sheet's constructs and the words of its lines are not cut alike. A word takes in all marks before it, and
names behind full stops, as in `Array.from`; a pseudo selector has two colons at most and ends at a full stop, and
the names of pseudo selectors and at-rules have fewer characters than those of words. So the word at a finding is
the construct, with the marks before it and with the names that go on behind it (`WordAround`). A property always
stands alone. `wordAt_reported` says when looking up the word finds what was reported: if no name goes on behind
the construct, and if no key is known that is tried before. Where no marks stand before, none is. -/
namespace WebBaseline.Lookup

open Stylesheet (IsValueKey Stands isEdge)

/-! ### The edges of a word -/

theorem of_isEdge {c : Char} (h : isEdge c = true) : isMark c = false ∧ isInner c = false := by
  have hname : Text.isNameChar c = false := by
    rw [Bool.eq_false_iff]
    intro hname
    simp only [isEdge, Stylesheet.not_isBlank_of_isNameChar hname, Stylesheet.isTerminator, Bool.false_or,
      Bool.or_eq_true, beq_iff_eq] at h
    rcases h with ((rfl | rfl) | rfl) | rfl <;> exact absurd hname (by decide +kernel)
  constructor
  · rw [Bool.eq_false_iff]
    intro hmark
    rcases isMark_iff.mp hmark with rfl | rfl <;> exact absurd h (by decide)
  · rw [isInner, hname, Bool.false_or, beq_eq_false_iff_ne]
    intro hdot
    exact absurd (hdot ▸ h) (by decide)

theorem not_follows_of_isEdge {c : Char} (h : isEdge c = true) (d : Char) : ¬ Follows c d := by
  intro hfollows
  obtain ⟨hmark, hinner⟩ := of_isEdge h
  rcases hfollows.left.1 with h | h
  · rw [hmark] at h
    cases h
  · rw [hinner] at h
    cases h

/-- A text ends with a run of marks. -/
theorem exists_marks (s : Text) :
    ∃ before lead, s = before ++ lead ∧ (∀ c ∈ lead, isMark c = true) ∧ ∀ c ∈ before.getLast?, isMark c = false := by
  refine ⟨s.rdropWhile isMark, s.rtakeWhile isMark, List.rdropWhile_append_rtakeWhile.symm,
    fun c hc => List.mem_rtakeWhile_imp hc, fun c hc => ?_⟩
  obtain ⟨a, ha⟩ := List.getLast?_eq_some_iff.mp hc
  have hne : s.rdropWhile isMark ≠ [] := by simp [ha]
  have hlast := List.rdropWhile_last_not isMark s hne
  simpa [ha] using hlast

theorem isNameChar_of_isNamePart {c : Char} (h : Text.isNamePart c = true) : Text.isNameChar c = true :=
  Text.of_isNamePart (p := fun c => Text.isNameChar c = true) (by decide +kernel) h

theorem isNameChar_of_isRuleChar {c : Char} (h : Stylesheet.isRuleChar c = true) : Text.isNameChar c = true := by
  simp only [Stylesheet.isRuleChar, Bool.or_eq_true, beq_iff_eq] at h
  rcases h with (((((rfl | h) | h) | rfl) | rfl) | rfl) | rfl
  · decide +kernel
  · exact isNameChar_of_isNamePart (by simp [Text.isNamePart, h])
  · exact isNameChar_of_isNamePart (by simp [Text.isNamePart, h])
  all_goals decide +kernel

theorem isNameChar_of_isPseudoChar {c : Char} (h : Stylesheet.isPseudoChar c = true) : Text.isNameChar c = true := by
  simp only [Stylesheet.isPseudoChar, Bool.or_eq_true, beq_iff_eq] at h
  rcases h with ((h | h) | rfl) | rfl
  · exact isNameChar_of_isNamePart (by simp [Text.isNamePart, h])
  · exact isNameChar_of_isNamePart (by simp [Text.isNamePart, h])
  all_goals decide +kernel

theorem IsWord.strip_eq {w : Text} (h : IsWord w) : Text.strip w = w := by
  obtain ⟨lead, name, more, hspells⟩ := h
  have hblank : ∀ c, isMark c = true ∨ isInner c = true → Text.isBlank c = false := by
    intro c hc
    rw [Bool.eq_false_iff]
    intro hblank
    obtain ⟨hmark, hinner⟩ := of_isEdge (Stylesheet.isEdge_of_isBlank hblank)
    simp [hmark, hinner] at hc
  refine (Text.isTrimmed_of_forall fun c hc => ?_).strip_eq
  rw [hspells.text_eq] at hc
  rcases List.mem_append.mp hc with hc | hc
  · exact hblank c (.inl (hspells.marks c hc))
  · exact hblank c (.inr (isInner_of_mem hspells.name hspells.more c hc))

/-! ### Constructs as words -/

section Construct

variable {before word rest key : Text}

/-- A construct is a name behind a mark, or a property. -/
theorem exists_mark_of_stands (h : Stands before word rest key) :
    (∃ mark name, mark ∈ leads ∧ word = mark ++ name ∧ key = mark ++ Text.lower name ∧ IsPart name ∧ 'Σ' ∉ word) ∨
      IsPart word ∧ ∀ c ∈ key.head?, isMark c = false := by
  cases h with
  | @atRule name hword hne hname =>
    refine .inl ⟨"@", name, by decide, hword, rfl, ⟨hne, fun c hc => isNameChar_of_isRuleChar (hname c hc)⟩, ?_⟩
    rw [hword, List.mem_cons, not_or]
    exact ⟨by decide, fun hm => absurd (hname _ hm) (by decide)⟩
  | @pseudo colons name hword hcolons hne hname =>
    have hmark : colons ∈ leads := by
      rcases hcolons with h | h <;> rw [h] <;> decide
    refine .inl ⟨colons, name, hmark, hword, rfl, ⟨hne, fun c hc => isNameChar_of_isPseudoChar (hname c hc)⟩, ?_⟩
    rw [hword, List.mem_append, not_or]
    exact ⟨(lower_marks (isMark_of_mem_leads hmark)).1, fun hm => absurd (hname _ hm) (by decide)⟩
  | property hne hname =>
    exact .inr ⟨⟨hne, hname⟩, fun c hc => isMark_eq_false_of_mem_lower hname c (List.mem_of_mem_head? hc)⟩

theorem isWord_of_stands (h : Stands before word rest key) : IsWord word := by
  rcases exists_mark_of_stands h with ⟨mark, name, hmark, rfl, -, hname, -⟩ | ⟨hword, -⟩
  · exact ⟨mark, name, [], by simp [dotted], isMark_of_mem_leads hmark, hname, by simp⟩
  · exact ⟨[], word, [], by simp [dotted], by simp, hword, by simp⟩

variable {lead : Text}

/-- Only a pseudo selector may stand behind more marks. -/
theorem lead_eq_nil (h : Stands (before ++ lead) word rest key) (hlead : ∀ c ∈ lead, isMark c = true)
    (hkey : key.head? ≠ some ':') : lead = [] := by
  by_contra hne
  have hlast := List.getLast_mem_getLast? hne
  have hedge := h.edge_before hkey _ (List.mem_getLast?_append_of_mem_getLast? hlast)
  have hmark := hlead _ (List.getLast_mem hne)
  rw [(of_isEdge hedge).1] at hmark
  cases hmark

/-- Nothing goes on into a construct and the marks before it. -/
theorem not_follows_of_stands (h : Stands (before ++ lead) word rest key) (hlead : ∀ c ∈ lead, isMark c = true)
    (hlast : ∀ c ∈ before.getLast?, isMark c = false) :
    ∀ c ∈ before.getLast?, ∀ d ∈ (lead ++ word).head?, ¬ Follows c d := by
  intro c hc d hd hfollows
  by_cases hcolon : key.head? = some ':'
  · have hmark : isMark d = true := by
      cases lead with
      | nil =>
        rw [List.nil_append, h.head?_eq hcolon] at hd
        exact Option.some.inj hd ▸ rfl
      | cons m lead => exact Option.some.inj hd ▸ hlead m (List.mem_cons_self ..)
    have hbefore := hfollows.left.2 hmark
    rw [hlast c hc] at hbefore
    cases hbefore
  · obtain rfl := lead_eq_nil h hlead hcolon
    rw [List.append_nil] at h
    exact not_follows_of_isEdge (h.edge_before hcolon c hc) d hfollows

/-- Behind a property nothing goes on. -/
theorem goesOn_of_stands (h : Stands before word rest key) (hkey : key.head? ≠ some ':' ∧ key.head? ≠ some '@') :
    goesOn rest = false := by
  refine goesOn_eq_false fun c hc => ?_
  rcases h.edge_behind hkey c hc with hedge | rfl
  · exact (of_isEdge hedge).2
  · decide +kernel

end Construct

/-! ### The word at a finding -/

/-- What was reported, written `word`, in its line: behind all the marks there, if there are any, and before what
directly continues its name, the characters of names and the dotted names. With both it is a word, and the text
does not go on into a longer one. -/
structure WordAround (text : Text) (f : Finding) (before lead word tail behind : Text) : Prop where
  line : (Text.lines text)[f.range.start.line]? = some (before ++ (lead ++ word ++ (tail ++ behind)))
  range : f.range = Range.onLine f.range.start.line (before.length + lead.length)
    (before.length + lead.length + word.length)
  key : Text.lower word = f.key
  marks : ∀ c ∈ lead, isMark c = true
  allMarks : ∀ c ∈ before.getLast?, isMark c = false
  /-- Only a pseudo selector may stand behind more marks. -/
  noMarks : f.key.head? ≠ some ':' → lead = []
  isWord : IsWord (lead ++ word ++ tail)
  whole : goesOn behind = false
  ends : tail = [] ↔ goesOn (tail ++ behind) = false
  /-- Behind a property nothing goes on. -/
  noTail : f.key.head? ≠ some ':' ∧ f.key.head? ≠ some '@' → tail = []

/-- Looking up a word of a line gives what was reported. -/
def Finds (index : Index) (f : Finding) (token line : Text) : Prop :=
  ∃ e, e.status = f.status ∧ resolve index token line = some (f.key, e)

section Finding

variable {text : Text} {index : Index} {f : Finding} {before lead word tail behind : Text}

/-- At the start of a construct a column selects it, with the marks before it and what goes on behind it. -/
theorem exists_wordAround (hf : f ∈ Stylesheet.scan text index) (hkey : ¬ IsValueKey f.key) :
    ∃ before lead word tail behind, WordAround text f before lead word tail behind ∧
      Stands (before ++ lead) word (tail ++ behind) f.key ∧
      wordAt (before ++ (lead ++ word ++ (tail ++ behind))) f.range.start.column = some (lead ++ word ++ tail) := by
  obtain ⟨n, _, before', word, rest, hline, rfl, hrange, hstands⟩ := Stylesheet.exists_stands hf hkey
  obtain ⟨before, lead, rfl, hmarks, hlast⟩ := exists_marks before'
  have hpos := List.length_pos_iff.mpr hstands.word_ne_nil
  obtain ⟨tail, behind, rfl, hwordAt, hisWord, hwhole, hends⟩ :=
    exists_wordAt ((isWord_of_stands hstands).marks_append hmarks) (not_follows_of_stands hstands hmarks hlast) rest
      (Nat.le_add_right before.length lead.length) (by rw [List.length_append]; omega)
  have hsplit : before ++ lead ++ (word ++ (tail ++ behind)) = before ++ (lead ++ word ++ (tail ++ behind)) := by simp
  rw [hsplit] at hline
  rw [List.length_append] at hrange
  have hcolumn : f.range.start.column = before.length + lead.length := by rw [hrange]; rfl
  refine ⟨before, lead, word, tail, behind, {
    line := by rw [hrange]; exact hline
    range := by rw [hrange]; rfl
    key := hstands.lower_word
    marks := hmarks
    allMarks := hlast
    noMarks := lead_eq_nil hstands hmarks
    isWord := hisWord
    whole := hwhole
    ends := hends
    noTail := fun hkey => hends.mpr (goesOn_of_stands hstands hkey) }, hstands, ?_⟩
  rw [hcolumn]
  exact hwordAt

/-- A construct that stands alone is found. -/
theorem finds_alone (hf : f ∈ Stylesheet.scan text index) (h : Stands before word behind f.key) (line : Text) :
    Finds index f word line := by
  obtain ⟨e, he, hstatus, -⟩ := (Stylesheet.reports_of_mem_scan hf).entry
  have hword := isWord_of_stands h
  have hlower : Text.lower (Text.strip word) = f.key := by rw [hword.strip_eq, h.lower_word]
  have hfound := resolve_of_key (hword.strip_eq.symm ▸ hword.ne_nil) (hlower.symm ▸ he) line
  rw [hlower] at hfound
  exact ⟨e, hstatus, hfound⟩

/-- A construct of a mark and a name is found just if nothing goes on behind it and no key is known that is tried
before its own. -/
theorem finds_marked_iff {mark name : Text} (hf : f ∈ Stylesheet.scan text index)
    (haround : WordAround text f before lead word tail behind) (hmark : mark ∈ leads) (hname : IsPart name)
    (hkey : f.key = mark ++ Text.lower name) (hsigma : 'Σ' ∉ word) (line : Text) :
    Finds index f (lead ++ word ++ tail) line ↔
      tail = [] ∧ ∀ k ∈ triedBefore f.key (lead ++ f.key) line, index.markup.get? k = none := by
  obtain ⟨e, he, hstatus, -⟩ := (Stylesheet.reports_of_mem_scan hf).entry
  have hlower := lower_token haround.marks haround.key hsigma tail
  rw [hkey, List.append_assoc mark] at hlower
  have hne : Text.lower name ≠ [] := fun hnil => hname.ne_nil ((Text.lower_eq_nil_iff name).mp hnil)
  have hhead : ∀ c ∈ (Text.lower name).head?, isMark c = false :=
    fun c hc => isMark_eq_false_of_mem_lower hname.chars c (List.mem_of_mem_head? hc)
  have hfound := resolve_marked_iff haround.marks hmark hne hhead haround.isWord.strip_eq hlower (hkey ▸ he) line
  rw [← hkey, Text.lowerAfter_eq_nil_iff] at hfound
  constructor
  · intro ⟨e', _, hresolve⟩
    exact ((hfound e').mp hresolve).2
  · intro h
    exact ⟨e, hstatus, (hfound e).mpr ⟨rfl, h⟩⟩

end Finding

/-- **The word at a finding.** At the start of what was reported, values aside, a column selects the construct with
the marks before it and the names that go on behind it. A construct that stands alone is found, with the status that
was reported. Otherwise it is found just if nothing goes on behind it and no key is known that is tried before its
own. -/
theorem wordAt_reported (text : Text) (index : Index) (f : Finding) (hf : f ∈ Stylesheet.scan text index)
    (hkey : ¬ IsValueKey f.key) :
    ∃ before lead word tail behind, WordAround text f before lead word tail behind ∧
      let line := before ++ (lead ++ word ++ (tail ++ behind))
      let token := lead ++ word ++ tail
      wordAt line f.range.start.column = some token ∧
      (lead = [] → tail = [] → Finds index f token line) ∧
      (Finds index f token line ↔
        tail = [] ∧ ∀ k ∈ triedBefore f.key (lead ++ f.key) line, index.markup.get? k = none) := by
  obtain ⟨before, lead, word, tail, behind, haround, hstands, hwordAt⟩ := exists_wordAround hf hkey
  refine ⟨before, lead, word, tail, behind, haround, ?_⟩
  intro line token
  have halone : lead = [] → tail = [] → Finds index f token line := by
    intro hlead htail
    have htoken : token = word := by simp [token, hlead, htail]
    rw [htoken]
    exact finds_alone hf hstands line
  refine ⟨hwordAt, halone, ?_⟩
  rcases exists_mark_of_stands hstands with ⟨mark, name, hmark, -, hmarked, hname, hsigma⟩ | ⟨-, hhead⟩
  · exact finds_marked_iff hf haround hmark hname hmarked hsigma line
  · -- A property has neither marks nor a tail.
    have hcolon : f.key.head? ≠ some ':' := fun h => absurd (hhead ':' h) (by decide)
    have hat : f.key.head? ≠ some '@' := fun h => absurd (hhead '@' h) (by decide)
    have hlead := haround.noMarks hcolon
    have htail := haround.noTail ⟨hcolon, hat⟩
    refine iff_of_true (halone hlead htail) ⟨htail, fun k hk => ?_⟩
    rw [hlead, List.nil_append, triedBefore_self] at hk
    cases hk

/-- A pseudo selector behind a mark of another kind. -/
theorem wordAt_reported_hover :
    let text : Text := "a@:Hover\x7b\x7d"
    let index : Index := { markup := [(":hover", { id := "hover", name := [], status := .newly })] }
    let f : Finding := ⟨Range.onLine 0 2 8, .newly, ":Hover", ":hover"⟩
    f ∈ Stylesheet.scan text index ∧ ¬ IsValueKey f.key ∧
    ∃ before lead word tail behind, WordAround text f before lead word tail behind ∧
      let line := before ++ (lead ++ word ++ (tail ++ behind))
      let token := lead ++ word ++ tail
      wordAt line f.range.start.column = some token ∧
      (lead = [] → tail = [] → Finds index f token line) ∧
      (Finds index f token line ↔
        tail = [] ∧ ∀ k ∈ triedBefore f.key (lead ++ f.key) line, index.markup.get? k = none) := by
  intro text index f
  have hf : f ∈ Stylesheet.scan text index := by decide +kernel
  have hkey : ¬ IsValueKey f.key := Stylesheet.not_isValueKey_of_head? rfl
  exact ⟨hf, hkey, wordAt_reported text index f hf hkey⟩

/-- A word that reaches beyond what was reported: a pseudo selector before a class and an at-rule before an
underscore are not found, and a pseudo selector behind a third colon is taken for another one. -/
theorem wordAt_off_construct :
    let newly : Entry := { id := "newly", name := [], status := .newly }
    let limited : Entry := { id := "limited", name := [], status := .limited }
    let index : Index := { markup := [(":has", limited), ("::has", newly), ("@layer", newly)] }
    let hasClass : Text := "a:has.b \x7b\x7d"
    let underscore : Text := "@layer_x;"
    let colons : Text := "a:::has \x7b\x7d"
    (Stylesheet.scan hasClass index = [⟨Range.onLine 0 1 5, .limited, ":has", ":has"⟩] ∧
      (Text.lines hasClass)[0]? = some hasClass ∧ wordAt hasClass 1 = some ":has.b" ∧
      resolve index ":has.b" hasClass = none) ∧
    (Stylesheet.scan underscore index = [⟨Range.onLine 0 0 6, .newly, "@layer", "@layer"⟩] ∧
      (Text.lines underscore)[0]? = some underscore ∧ wordAt underscore 0 = some "@layer_x" ∧
      resolve index "@layer_x" underscore = none) ∧
    (Stylesheet.scan colons index = [⟨Range.onLine 0 2 7, .newly, "::has", "::has"⟩] ∧
      (Text.lines colons)[0]? = some colons ∧ wordAt colons 2 = some ":::has" ∧
      resolve index ":::has" colons = some (":has".toList, limited)) := by
  decide +kernel

end WebBaseline.Lookup
