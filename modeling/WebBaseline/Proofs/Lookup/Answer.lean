import WebBaseline.Proofs.Lookup.Settled

/-! What a look-up answers.

An answer comes from the markup table or, if that has none of the keys that are tried, from the script table.
Markup keys that are tried are settled, so a second look-up finds the key before it tries anything else. A script
key is the word itself, and looking it up goes the same way as before. `resolve_sound` says both, and what the
tables lack if there is no answer. -/
namespace WebBaseline.Lookup

variable {index : Index} {token line : Text}

/-- Blanks at the ends of a word make no difference. -/
theorem resolve_strip (index : Index) (token line : Text) :
    resolve index (Text.strip token) line = resolve index token line := by
  have hstrip : Text.strip (Text.strip token) = Text.strip token := (Text.isTrimmed_strip token).strip_eq
  by_cases hblank : Text.strip token = []
  · rw [resolve_of_blank (hstrip.trans hblank), resolve_of_blank hblank]
  · rw [resolve_of_word (by rwa [hstrip]), resolve_of_word hblank, hstrip]

/-- A key that is found in the markup table is found again, on any line. -/
theorem resolve_of_firstKnown {keys : List Text} {k : Text} {e : Entry} (hkeys : ∀ k ∈ keys, Settled k)
    (h : firstKnown index.markup keys = some (k, e)) (line : Text) : resolve index k line = some (k, e) := by
  obtain ⟨hmem, he, -⟩ := firstKnown_eq_some_iff.mp h
  exact resolve_of_settled (hkeys k hmem) he line

/-- Where the answer to a word on a line comes from, and that its key has the same answer. An answer from the
markup table stays on any line. One from the script table stays on the line; the markup table does not have the
word in lower case. -/
inductive Answers (index : Index) (token line k : Text) (e : Entry) : Prop where
  | markup (entry : index.markup.get? k = some e) (again : ∀ line', resolve index k line' = some (k, e))
  | script (word : k = Text.strip token) (entry : index.script.get? k = some e)
    (low : index.markup.get? (Text.lower k) = none) (again : resolve index k line = some (k, e))

/-- **Answers are right, and stay.** An answer is an entry of a table, and its key has the same answer. There is
no answer just for a blank word, or where none of the keys that are tried is in its table. -/
theorem resolve_sound (index : Index) (token line : Text) :
    (∀ k e, resolve index token line = some (k, e) → Answers index token line k e) ∧
    (resolve index token line = none ↔ Text.strip token = [] ∨
      let key := Text.lower (Text.strip token)
      index.markup.get? key = none ∧
      (∀ k, valueKey? line key = some k → index.markup.get? k = none) ∧
      (bare key ≠ [] → ∀ lead ∈ leads, index.markup.get? (lead ++ bare key) = none) ∧
      index.script.get? (Text.strip token) = none) := by
  constructor
  · intro k e h
    obtain ⟨hword, hmarkup | ⟨hnone, rfl, hscript⟩⟩ := resolve_eq_some_iff.mp h
    · have hkey := settled_lower hword (Text.isTrimmed_strip token)
      exact .markup (firstKnown_eq_some_iff.mp hmarkup).2.1
        (resolve_of_firstKnown (fun k => settled_of_mem_markupCandidates hkey) hmarkup)
    · have hlow := firstKnown_eq_none_iff.mp hnone _ (mem_markupCandidates.mpr (.inl rfl))
      exact .script rfl hscript hlow ((resolve_strip index token line).trans h)
  · rw [resolve_eq_none_iff]
    apply or_congr_right
    constructor
    · intro ⟨hmarkup, hscript⟩
      refine ⟨?_, fun k hk => ?_, fun hbare lead hlead => ?_, hscript⟩
      · exact hmarkup _ (mem_markupCandidates.mpr (.inl rfl))
      · exact hmarkup k (mem_markupCandidates.mpr (.inr (.inl hk)))
      · exact hmarkup _ (mem_markupCandidates.mpr (.inr (.inr ⟨hbare, lead, hlead, rfl⟩)))
    · intro ⟨hkey, hvalue, hbare, hscript⟩
      refine ⟨fun k hk => ?_, hscript⟩
      rcases mem_markupCandidates.mp hk with rfl | hk | ⟨hne, lead, hlead, rfl⟩
      · exact hkey
      · exact hvalue k hk
      · exact hbare hne lead hlead

/-- A word in capitals behind another mark, a script key between blanks, and a value that the table has for
another property only. -/
theorem resolve_sound_kinds :
    let hover : Entry := { id := "hover", name := [], status := .newly }
    let flat : Entry := { id := "flat", name := [], status := .widely }
    let pseudo : Text := "::hover"
    let method : Text := "Array.flat"
    let index : Index := { markup := [(pseudo, hover), ("display::grid", hover)], script := [(method, flat)] }
    (resolve index "@HOVER" "p: @hover" = some (pseudo, hover) ∧ Answers index "@HOVER" "p: @hover" pseudo hover) ∧
    (resolve index "\tArray.flat " "" = some (method, flat) ∧ Answers index "\tArray.flat " "" method flat) ∧
    valueKey? "float: grid" "grid" = some "float::grid" ∧ resolve index "grid" "float: grid" = none := by
  intro hover flat pseudo method index
  have hpseudo : resolve index "@HOVER" "p: @hover" = some (pseudo, hover) := by decide +kernel
  have hmethod : resolve index "\tArray.flat " "" = some (method, flat) := by decide +kernel
  have hvalue : valueKey? "float: grid" "grid" = some "float::grid" := by decide +kernel
  refine ⟨⟨hpseudo, (resolve_sound index _ _).1 _ _ hpseudo⟩, ⟨hmethod, (resolve_sound index _ _).1 _ _ hmethod⟩,
    hvalue, ?_⟩
  refine (resolve_sound index _ _).2.mpr (.inr ⟨by decide +kernel, fun k hk => ?_, fun _ => ?_, by decide +kernel⟩)
  · have hlow : Text.lower (Text.strip "grid") = "grid" := by decide +kernel
    rw [hlow, hvalue] at hk
    cases hk
    rfl
  · decide +kernel

end WebBaseline.Lookup
