import Mathlib.Data.List.Basic
import WebBaseline.Proofs.Markup.Tag
import WebBaseline.Proofs.Text.Name

/-! Tags do not reach into foreign content.

A foreign tag is brackets around a foreign name and the text of its attributes
(`ForeignTag.written_of_recognise`). A foreign stretch starts right behind a tag, and so behind a closing
bracket (`exists_of_mem_foreignRanges`). An opening tag has no such bracket but at its end. One that
starts before a foreign stretch therefore ends before it (`stop_le_of_mem_foreignRanges`). -/
namespace WebBaseline.Markup

/-! ### Foreign tags -/

/-- A character that is read as a letter neither opens a tag nor ends its name. -/
theorem of_isLetterOf {a c : Char} (ha : Text.isLetter a = true) (h : isLetterOf a c = true) :
    c ≠ '<' ∧ endsName [c] = false := by
  simp only [isLetterOf, Bool.or_eq_true, Bool.and_eq_true, beq_iff_eq] at h
  rcases h with rfl | ⟨-, rfl⟩
  · by_cases hc : c.toNat < 128
    · have hall : ∀ n < 128, Text.isLetter (Char.ofNat n).toLower = true →
          Char.ofNat n ≠ '<' ∧ endsName [Char.ofNat n] = false := by decide +kernel
      have := hall c.toNat hc
      rw [Char.ofNat_toNat] at this
      exact this ha
    · rw [Text.toLower_of_le (by omega)] at ha
      exact absurd (Text.toNat_lt_of_isNamePart (by simp [Text.isNamePart, ha])) hc
  · decide

/-- What a foreign tag is called: letters, of which none opens a tag or ends its name. -/
structure IsForeignName (name : Text) : Prop where
  ne_nil : name ≠ []
  letters : ∀ c ∈ name, c ≠ '<' ∧ endsName [c] = false

theorem exists_of_dropWord? {word s rest : Text} (h : dropWord? word s = some rest) :
    ∃ name, s = name ++ rest ∧ name.length = word.length ∧
      ∀ c ∈ name, ∃ a ∈ word, isLetterOf a c = true := by
  fun_induction dropWord? word s with
  | case1 s =>
    cases h
    exact ⟨[], rfl, rfl, by simp⟩
  | case2 => cases h
  | case3 a word c s hletter ih =>
    obtain ⟨name, rfl, hlen, hname⟩ := ih h
    refine ⟨c :: name, rfl, by simp [hlen], ?_⟩
    intro d hd
    rcases List.mem_cons.mp hd with rfl | hd
    · exact ⟨a, List.mem_cons_self .., hletter⟩
    · obtain ⟨b, hb, hdb⟩ := hname d hd
      exact ⟨b, List.mem_cons_of_mem _ hb, hdb⟩
  | case4 => cases h

/-- Either word is read as a name. -/
theorem exists_of_foreignName {s rest : Text}
    (h : (dropWord? "svg" s <|> dropWord? "math" s) = some rest) :
    ∃ name, s = name ++ rest ∧ IsForeignName name := by
  have read : ∀ word : Text, word ≠ [] → word.all Text.isLetter = true →
      dropWord? word s = some rest → ∃ name, s = name ++ rest ∧ IsForeignName name := by
    intro word hword hletters hdrop
    obtain ⟨name, hs, hlen, hname⟩ := exists_of_dropWord? hdrop
    refine ⟨name, hs, fun hnil => hword ?_, fun c hc => ?_⟩
    · exact List.length_eq_zero_iff.mp (by rw [← hlen, hnil]; rfl)
    · obtain ⟨a, ha, hac⟩ := hname c hc
      exact of_isLetterOf (List.all_eq_true.mp hletters a ha) hac
  rw [Option.orElse_eq_orElse, Option.orElse_eq_or, Option.or_eq_some_iff] at h
  rcases h with hsvg | ⟨-, hmath⟩
  · exact read "svg" (by decide) (by decide) hsvg
  · exact read "math" (by decide) (by decide) hmath

/-- How a foreign tag is written: a foreign name, behind a solidus if the tag closes, and the text of its
attributes, all in brackets. -/
structure ForeignTag.Written (text : Text) (isEnd : Bool) (name attributes : Text) : Prop where
  text_eq : text = '<' :: ((if isEnd then ['/'] else []) ++ (name ++ (attributes ++ ['>'])))
  named : IsForeignName name
  free : ∀ c ∈ attributes, isInner c = true
  ends : endsName (attributes ++ ['>']) = true

theorem ForeignTag.written_of_recognise {s : Text} {n : Nat} {tag : ForeignTag}
    (h : ForeignTag.recognise s = some (n, tag)) :
    ∃ text rest isEnd name attributes, Written text isEnd name attributes ∧ s = text ++ rest ∧
      n = text.length ∧
      tag = if isEnd then .closing else .opening ((Text.stripRight attributes).endsWith "/") := by
  revert h
  fun_cases ForeignTag.recognise s with
  | case2 s isEnd body hend rest hword hends =>
    intro h
    obtain ⟨name, rfl, hname⟩ := exists_of_foreignName hword
    obtain ⟨attributes, hinner, heq⟩ := Option.map_eq_some_iff.mp h
    cases heq
    obtain ⟨behind, rfl, -⟩ := exists_of_inner? hinner
    have hs : s = (if isEnd then ['/'] else []) ++ (name ++ (attributes ++ '>' :: behind)) := by
      split at hend <;> cases hend <;> rfl
    have hends' : endsName (attributes ++ ['>']) = true := by
      cases attributes with
      | nil => rfl
      | cons c s => exact hends
    refine ⟨_, behind, isEnd, name, attributes,
      ⟨rfl, hname, isInner_of_inner? hinner, hends'⟩, ?_, ?_, rfl⟩
    · rw [hs]
      simp only [List.cons_append, List.append_assoc, List.nil_append]
    · rw [hs]
      simp only [List.length_cons, List.length_append, List.length_nil]
      omega
  | case1 | case3 | case4 => simp

/-- A foreign tag ends with a closing bracket. -/
theorem ForeignTag.exists_of_recognise {s : Text} {n : Nat} {tag : ForeignTag}
    (h : ForeignTag.recognise s = some (n, tag)) :
    ∃ body rest, s = body ++ '>' :: rest ∧ n = body.length + 1 := by
  obtain ⟨text, rest, isEnd, name, attributes, hwritten, rfl, hlen, -⟩ := written_of_recognise h
  refine ⟨'<' :: ((if isEnd then ['/'] else []) ++ (name ++ attributes)), rest, ?_, ?_⟩
  · simp [hwritten.text_eq]
  · simp only [hlen, hwritten.text_eq, List.length_cons, List.length_append, List.length_nil]
    omega

/-! ### What follows a foreign tag -/

/-- A text with a closing bracket decides by itself which word stands at its front; the bracket stands
behind the word. -/
theorem dropWord?_append {word s : Text} (hword : word.all Text.isLetter = true) (hs : '>' ∈ s)
    (t : Text) :
    dropWord? word (s ++ t) = (dropWord? word s).map (· ++ t) ∧
      ∀ rest, dropWord? word s = some rest → '>' ∈ rest := by
  induction word generalizing s with
  | nil => exact ⟨rfl, fun rest h => by cases h; exact hs⟩
  | cons a word ih =>
    simp only [List.all_cons, Bool.and_eq_true] at hword
    cases s with
    | nil => cases hs
    | cons c s =>
      simp only [List.cons_append, dropWord?]
      split
      · rename_i hletter
        apply ih hword.2
        refine (List.mem_cons.mp hs).resolve_left ?_
        rintro rfl
        exact absurd (of_isLetterOf hword.1 hletter).2 (by decide)
      · simp

theorem foreignName_append {s : Text} (hs : '>' ∈ s) (t : Text) :
    (dropWord? "svg" (s ++ t) <|> dropWord? "math" (s ++ t)) =
      (dropWord? "svg" s <|> dropWord? "math" s).map (· ++ t) ∧
    ∀ rest, (dropWord? "svg" s <|> dropWord? "math" s) = some rest → '>' ∈ rest := by
  have hletters : ("svg" : Text).all Text.isLetter = true ∧ ("math" : Text).all Text.isLetter = true := by
    decide
  obtain ⟨hsvg, hsvgRest⟩ := dropWord?_append hletters.1 hs t
  obtain ⟨hmath, hmathRest⟩ := dropWord?_append hletters.2 hs t
  rw [hsvg, hmath]
  cases h : dropWord? "svg" s with
  | none => exact ⟨rfl, hmathRest⟩
  | some rest =>
    refine ⟨rfl, fun _ he => ?_⟩
    cases he
    exact hsvgRest _ h

/-- What a foreign tag reads behind its bracket and its solidus; `size` characters stand behind the
bracket. -/
def ForeignTag.readName (isEnd : Bool) (size : Nat) (body : Text) : Option (Nat × ForeignTag) :=
  match dropWord? "svg" body <|> dropWord? "math" body with
  | none => none
  | some rest =>
    if endsName rest then
      (inner? rest).map fun inner =>
        (1 + (size - rest.length) + inner.length + 1,
          if isEnd then .closing else .opening ((Text.stripRight inner).endsWith "/"))
    else none

theorem ForeignTag.recognise_of_ne {c : Char} (hc : c ≠ '<') (s : Text) :
    ForeignTag.recognise (c :: s) = none := by
  rw [ForeignTag.recognise]
  exact fun _ he => hc (List.cons.inj he).1

theorem ForeignTag.recognise_cons {c : Char} (hc : c ≠ '/') (s : Text) :
    ForeignTag.recognise ('<' :: c :: s) = readName false (c :: s).length (c :: s) := by
  unfold ForeignTag.recognise
  split
  · rename_i u he
    cases he
    split
    rename_i hbody
    split at hbody
    · rename_i hsolidus
      exact absurd (List.cons.inj hsolidus).1 hc
    · cases hbody
      rfl
  · rename_i h
    exact absurd rfl (h (c :: s))

theorem ForeignTag.readName_append {body : Text} (h : '>' ∈ body) (isEnd : Bool) (size : Nat)
    (t : Text) : readName isEnd (size + t.length) (body ++ t) = readName isEnd size body := by
  obtain ⟨hname, hrest⟩ := foreignName_append h t
  unfold readName
  rw [hname]
  cases hread : (dropWord? "svg" body <|> dropWord? "math" body) with
  | none => rfl
  | some rest =>
    have hmem := hrest rest hread
    simp only [Option.map_some, endsName_append (List.ne_nil_of_mem hmem), inner?_append hmem,
      List.length_append, Nat.add_sub_add_right]

/-- A text with a closing bracket decides by itself which foreign tag stands at its front. -/
theorem ForeignTag.recognise_append {s : Text} (hs : '>' ∈ s) (t : Text) :
    ForeignTag.recognise (s ++ t) = ForeignTag.recognise s := by
  cases s with
  | nil => cases hs
  | cons c s =>
    by_cases hc : c = '<'
    · subst hc
      have hs : '>' ∈ s := (List.mem_cons.mp hs).resolve_left (by decide)
      obtain ⟨d, body, rfl⟩ := List.exists_cons_of_ne_nil (List.ne_nil_of_mem hs)
      by_cases hd : d = '/'
      · subst hd
        have hbody : '>' ∈ body := (List.mem_cons.mp hs).resolve_left (by decide)
        have hread := readName_append hbody true (body.length + 1) t
        rw [Nat.add_right_comm, ← List.length_append] at hread
        exact hread
      · have hread := readName_append hs false (d :: body).length t
        rw [← List.length_append] at hread
        rw [List.cons_append, List.cons_append, recognise_cons hd, recognise_cons hd]
        exact hread
    · rw [List.cons_append, recognise_of_ne hc, recognise_of_ne hc]

/-! ### Foreign stretches -/

/-- A foreign stretch starts where the open element does, or else behind a tag that is left. -/
theorem exists_of_mem_foreignFrom {size depth start : Nat} {ms : List (Text.Match ForeignTag)}
    {r : Nat × Nat} (h : r ∈ foreignFrom size depth start ms) :
    depth ≠ 0 ∧ r.1 = start ∨ ∃ m ∈ ms, r.1 = m.stop := by
  fun_induction foreignFrom size depth start ms with
  | case1 => cases h
  | case2 depth start => exact .inl ⟨Nat.succ_ne_zero _, by rw [List.mem_singleton.mp h]⟩
  | case3 start m rest _ ih =>
    exact (ih h).imp (fun hstart => absurd rfl hstart.1) List.exists_mem_cons_of_exists
  | case4 start m rest _ ih =>
    rcases List.mem_cons.mp h with rfl | h
    · exact .inl ⟨Nat.one_ne_zero, rfl⟩
    · exact (ih h).imp (fun hstart => absurd rfl hstart.1) List.exists_mem_cons_of_exists
  | case5 start m rest depth _ _ ih =>
    exact (ih h).imp (fun hstart => ⟨Nat.succ_ne_zero _, hstart.2⟩) List.exists_mem_cons_of_exists
  | case6 start m rest depth _ ih => exact (ih h).imp id List.exists_mem_cons_of_exists
  | case7 start m rest _ ih =>
    -- The outermost element opens here.
    rcases ih h with hstart | hlater
    · exact .inr ⟨m, List.mem_cons_self .., hstart.2⟩
    · exact .inr (List.exists_mem_cons_of_exists hlater)
  | case8 start m rest depth hdepth _ ih =>
    exact (ih h).imp (fun hstart => ⟨hdepth, hstart.2⟩) List.exists_mem_cons_of_exists

theorem exists_of_mem_foreignRanges {masked : Text} {r : Nat × Nat} (h : r ∈ foreignRanges masked) :
    ∃ before rest, masked = before ++ '>' :: rest ∧ r.1 = before.length + 1 := by
  rcases exists_of_mem_foreignFrom h with ⟨hdepth, -⟩ | ⟨m, hm, hstop⟩
  · exact absurd rfl hdepth
  · obtain ⟨front, s, rfl, hstart, hr⟩ := Text.Matches.exists_of_mem_all hm
    obtain ⟨body, rest, rfl, hlen⟩ := ForeignTag.exists_of_recognise hr
    refine ⟨front ++ body, rest, (List.append_assoc ..).symm, ?_⟩
    rw [hstop, Text.Match.stop, hstart, hlen, List.length_append, Nat.add_assoc]

/-- A tag that starts before a foreign stretch ends before it. -/
theorem stop_le_of_mem_foreignRanges {masked : Text} {t : Text.Match Tag} {r : Nat × Nat}
    (ht : t ∈ Text.Matches.all Tag.recognise masked) (hr : r ∈ foreignRanges masked)
    (h : t.start < r.1) : t.stop ≤ r.1 := by
  obtain ⟨before, rest, hmasked, hstart⟩ := exists_of_mem_foreignRanges hr
  obtain ⟨front, s, hfront, htag, hread⟩ := Text.Matches.exists_of_mem_all ht
  obtain ⟨behind, rfl, hlen, -, hfree⟩ := Tag.exists_of_recognise hread
  by_contra hstop
  -- The bracket before the stretch would stand inside of the tag.
  have hbracket : masked[before.length]? = some '>' := by
    rw [hmasked, List.getElem?_append_right (Nat.le_refl _), Nat.sub_self]
    rfl
  rw [Text.Match.stop] at hstop
  rw [hfront, List.getElem?_append_right (by omega), List.getElem?_append_left (by
    simp only [List.length_append, List.length_cons]
    omega)] at hbracket
  exact hfree (List.mem_of_getElem? hbracket)

end WebBaseline.Markup
