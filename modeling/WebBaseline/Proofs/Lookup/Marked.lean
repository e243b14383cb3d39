import WebBaseline.Proofs.Lookup.Candidate
import WebBaseline.Proofs.Lookup.Word

/-! Keys of a mark and a name, as `:hover`.

A word is tried without its marks behind each kind of mark. So such a key is tried for a word of the name with any
marks before it, and for no word that goes on behind the name (`eq_nil_of_mem_markupCandidates`). It is found if
no key is known that is tried before (`resolve_marked_iff`). -/
namespace WebBaseline.Lookup

/-! ### Marks and lower case -/

/-- A name in lower case has no marks. -/
theorem isMark_eq_false_of_mem_lower {name : Text} (h : ∀ c ∈ name, Text.isNameChar c = true) :
    ∀ c ∈ Text.lower name, isMark c = false := by
  intro c hc
  rw [Bool.eq_false_iff]
  intro hmark
  rcases isMark_iff.mp hmark with rfl | rfl <;>
    exact absurd (h _ (Text.mem_of_mem_lower (by decide +kernel) hc)) (by decide +kernel)

/-- Marks are left as they are in lower case. -/
theorem lower_marks {marks : Text} (h : ∀ c ∈ marks, isMark c = true) : 'Σ' ∉ marks ∧ Text.lower marks = marks := by
  refine ⟨fun hm => absurd (h _ hm) (by decide), Text.lower_eq_self fun c hc => ?_⟩
  rcases isMark_iff.mp (h c hc) with rfl | rfl <;> decide +kernel

/-- The word at a construct in lower case: what stands behind the construct does not change it. -/
theorem lower_token {lead word key : Text} (hlead : ∀ c ∈ lead, isMark c = true) (hword : Text.lower word = key)
    (hsigma : 'Σ' ∉ word) (tail : Text) :
    Text.lower (lead ++ word ++ tail) = lead ++ (key ++ Text.lowerAfter (lead ++ word).reverse tail) := by
  obtain ⟨hfree, hlow⟩ := lower_marks hlead
  rw [Text.lower_append_after (by simp [hfree, hsigma]), Text.lower_append hfree hsigma, hlow, hword,
    List.append_assoc]

/-! ### Keys that are tried -/

theorem isMark_of_mem_leads {lead : Text} (h : lead ∈ leads) : ∀ c ∈ lead, isMark c = true := by
  have hall : ∀ lead ∈ leads, (lead.all fun c => decide (isMark c = true)) = true := by decide
  exact Text.forall_mem_of_all (hall lead h)

theorem bare_append {marks s : Text} (hmarks : ∀ c ∈ marks, isMark c = true)
    (hs : ∀ c ∈ s.head?, isMark c = false) : bare (marks ++ s) = s := by
  have hbare : bare (marks ++ s) = (marks ++ s).dropWhile isMark := by
    unfold bare isMark
    simp only [Bool.or_comm]
  rw [hbare, List.dropWhile_append_of_pos hmarks, Text.dropWhile_of_head? hs]

/-- The keys that are tried for a word before a certain one. -/
def triedBefore (key word line : Text) : List Text :=
  (markupCandidates word line).takeWhile (· ≠ key)

/-- No key is tried before that of the word itself. -/
theorem triedBefore_self (key line : Text) : triedBefore key key line = [] := by
  rw [triedBefore, markupCandidates_eq, List.cons_append, List.takeWhile_cons_of_neg (by simp)]

section Marked

variable {index : Index} {token line front mark name t : Text} {e : Entry}

/-- A key of a mark and a name is tried for no word that goes on behind the name. -/
theorem eq_nil_of_mem_markupCandidates (hfront : ∀ c ∈ front, isMark c = true) (hmark : mark ∈ leads)
    (hne : name ≠ []) (hname : ∀ c ∈ name.head?, isMark c = false)
    (h : mark ++ name ∈ markupCandidates (front ++ (mark ++ (name ++ t))) line) : t = [] := by
  have hhead : ∀ c ∈ (name ++ t).head?, isMark c = false := by rwa [List.head?_append_of_ne_nil name hne]
  rcases mem_markupCandidates.mp h with heq | hvalue | ⟨-, lead, hlead, heq⟩
  · have hlen := congrArg List.length heq
    simp only [List.length_append] at hlen
    exact List.length_eq_zero_iff.mp (by omega)
  · obtain ⟨d, -, -, heq⟩ := valueKey?_eq_some_iff.mp hvalue
    have hlen := congrArg List.length heq
    have hcolons : ("::" : Text).length = 2 := rfl
    simp only [List.length_append, hcolons] at hlen
    omega
  · rw [← List.append_assoc front, bare_append (List.forall_mem_append.mpr ⟨hfront, isMark_of_mem_leads hmark⟩) hhead]
      at heq
    have hbare := congrArg bare heq
    rw [bare_append (isMark_of_mem_leads hmark) hname, bare_append (isMark_of_mem_leads hlead) hhead] at hbare
    exact List.self_eq_append_right.mp hbare

/-- A known key of a mark and a name is found for a word with the name if nothing goes on behind the name and no key
is known that is tried before. -/
theorem resolve_marked_iff (hfront : ∀ c ∈ front, isMark c = true) (hmark : mark ∈ leads) (hne : name ≠ [])
    (hname : ∀ c ∈ name.head?, isMark c = false) (htoken : Text.strip token = token)
    (hlower : Text.lower token = front ++ (mark ++ (name ++ t))) (he : index.markup.get? (mark ++ name) = some e)
    (line : Text) (e' : Entry) :
    resolve index token line = some (mark ++ name, e') ↔ e' = e ∧ t = [] ∧
      ∀ k ∈ triedBefore (mark ++ name) (front ++ (mark ++ name)) line, index.markup.get? k = none := by
  rw [resolve_eq_some_iff, htoken, hlower]
  constructor
  · intro ⟨_, hfound⟩
    rcases hfound with hfound | ⟨hnone, hkey, -⟩
    · obtain ⟨hmem, hget, hbefore⟩ := firstKnown_eq_some_iff.mp hfound
      obtain rfl := eq_nil_of_mem_markupCandidates hfront hmark hne hname hmem
      rw [List.append_nil] at hbefore
      exact ⟨Option.some.inj (hget.symm.trans he), rfl, hbefore⟩
    · -- As a script key the word would be the known key itself.
      have hlow : Text.lower token = token := by
        refine Text.lower_eq_self fun c hc => Text.isLow_of_mem_lower (s := token) ?_
        rw [hlower]
        rw [← hkey] at hc
        rcases List.mem_append.mp hc with hc | hc <;> simp [hc]
      have hunknown := firstKnown_eq_none_iff.mp hnone _ (mem_markupCandidates.mpr (.inl rfl))
      rw [← hlower, hlow, ← hkey, he] at hunknown
      cases hunknown
  · intro ⟨he', ht, hbefore⟩
    subst he' ht
    rw [List.append_nil]
    refine ⟨?_, .inl (firstKnown_eq_some_iff.mpr ⟨?_, he, hbefore⟩)⟩
    · intro hnil
      subst hnil
      have hlen := congrArg List.length hlower
      have hpos := List.length_pos_iff.mpr hne
      simp [Text.lower, Text.lowerAfter] at hlen
      omega
    · refine mem_markupCandidates.mpr (.inr (.inr ?_))
      rw [← List.append_assoc, bare_append (List.forall_mem_append.mpr ⟨hfront, isMark_of_mem_leads hmark⟩) hname]
      exact ⟨hne, mark, hmark, rfl⟩

end Marked

end WebBaseline.Lookup
