import WebBaseline.Proofs.Lookup.Candidate
import WebBaseline.Proofs.Scan.Soundness
import WebBaseline.Proofs.Stylesheet.Value

/-! Values of a declaration, looked up on its line.

A scan cuts a declaration off at the semicolon, and a look-up is given the line with the semicolon. Both read the
same property and the same tokens (`resolve_closing`). The look-up tries a token alone before it tries it behind
the property, and the scan knows it behind the property only. So what was reported for a token is found, unless
the index has the token alone (`resolve_declared`). -/
namespace WebBaseline.Lookup

open Stylesheet (Declaration IsClosing ReportsToken valueTokens)

variable {index : Index} {s token : Text} {d : Declaration}

/-- What may stand behind a declaration makes no difference to a look-up. -/
theorem resolve_closing (hd : Declaration.parse? s = some d) (hs : ';' ∉ s) {closing : Text}
    (hclosing : IsClosing closing) (token : Text) :
    resolve index token (s ++ closing) = resolve index token s :=
  resolve_congr ((Stylesheet.parse?_closing hd hs hclosing).trans hd.symm)

section Token

variable (htoken : token ∈ valueTokens d.value)
include htoken

theorem strip_valueToken : Text.strip token = token ∧ token ≠ [] :=
  ⟨(Stylesheet.isTrimmed_of_mem_valueTokens htoken).strip_eq, (Stylesheet.of_mem_valueTokens htoken).1⟩

/-- A token that the index has alone is found so. -/
theorem resolve_valueToken_alone {e : Entry} (he : index.markup.get? (Text.lower token) = some e) (line : Text) :
    resolve index token line = some (Text.lower token, e) := by
  obtain ⟨hstrip, hne⟩ := strip_valueToken htoken
  have hfound := resolve_of_key (hstrip.symm ▸ hne) (hstrip.symm ▸ he) line
  rwa [hstrip] at hfound

/-- Any other is found behind the property. -/
theorem resolve_valueToken (hd : Declaration.parse? s = some d) {e : Entry}
    (hnone : index.markup.get? (Text.lower token) = none)
    (he : index.markup.get? (Text.lower d.name ++ "::" ++ Text.lower token) = some e) :
    resolve index token s = some (Text.lower d.name ++ "::" ++ Text.lower token, e) := by
  obtain ⟨hstrip, hne⟩ := strip_valueToken htoken
  have hkey : valueKey? s (Text.lower token) = some (Text.lower d.name ++ "::" ++ Text.lower token) :=
    valueKey?_eq_some_iff.mpr ⟨d, hd, ⟨token, htoken, rfl⟩, rfl⟩
  exact resolve_of_value (hstrip.symm ▸ hne) (hstrip.symm ▸ hnone) (hstrip.symm ▸ hkey) he

end Token

/-- What a look-up of a reported value finds: the value alone, if the index has it so, and otherwise what was
reported. -/
inductive FindsValue (index : Index) (f : Finding) (value : Text) : Option (Text × Entry) → Prop where
  | alone {e : Entry} (entry : index.markup.get? value = some e) : FindsValue index f value (some (value, e))
  | reported {e : Entry} (notAlone : index.markup.get? value = none) (entry : index.markup.get? f.key = some e)
    (status : e.status = f.status) : FindsValue index f value (some (f.key, e))

/-- **A scan and a look-up agree on the values of a declaration.** With or without a semicolon, a token is found
alone if the index has it so, and otherwise behind the property. What a scan reports for a token in a block is
therefore found on each line that declares the property with such a token: the declaration in the block, with or
without its semicolon, is one. -/
theorem resolve_declared (index : Index) :
    (∀ s d, Declaration.parse? s = some d → ';' ∉ s → ∀ token ∈ valueTokens d.value,
      let key := Text.lower token
      let valueKey := Text.lower d.name ++ "::" ++ key
      (∀ closing, IsClosing closing → resolve index token (s ++ closing) = resolve index token s) ∧
      (∀ e, index.markup.get? key = some e → resolve index token s = some (key, e)) ∧
      (∀ e, index.markup.get? key = none → index.markup.get? valueKey = some e →
        resolve index token s = some (valueKey, e))) ∧
    (∀ text, ∀ f ∈ Stylesheet.scan text index, ∀ name value, name ≠ [] → ':' ∉ name →
      f.key = name ++ "::" ++ value →
      ∃ p d token start, ReportsToken text f p d token start ∧ Text.lower d.name = name ∧
        Text.lower token = value ∧
        (∀ closing, IsClosing closing → Declaration.parse? (p.segment.text ++ closing) = some d) ∧
        ∀ line d', Declaration.parse? line = some d' → Text.lower d'.name = name →
          ∀ t ∈ valueTokens d'.value, Text.lower t = value → FindsValue index f value (resolve index t line)) := by
  constructor
  · intro s d hd hs token htoken key valueKey
    refine ⟨fun closing hclosing => resolve_closing hd hs hclosing token, fun e he => ?_, fun e hnone he => ?_⟩
    · exact resolve_valueToken_alone htoken he s
    · exact resolve_valueToken htoken hd hnone he
  · intro text f hf name value hname hcolon hkey
    obtain ⟨p, hp, spot, hspot, hfinding⟩ := Stylesheet.exists_spot_of_mem_scan hf
    obtain ⟨d, token, hblock, hd, htoken, hvalueSpot, hproperty, hvalue⟩ :=
      Stylesheet.exists_token_of_key hspot hname hcolon ((Mention.key_of_finding? hfinding).symm.trans hkey)
    have hreports := Stylesheet.reportsToken_of_finding? hp hblock hd htoken hvalueSpot hfinding
    refine ⟨p, d, token, spot.start, hreports, hproperty.symm, hvalue.symm, fun closing hclosing => ?_, ?_⟩
    · have hfree : ';' ∉ p.segment.text := by
        obtain ⟨-, masked, -, -, hseg⟩ := Stylesheet.exists_of_mem_placedLines hp
        intro hmem
        exact absurd (Stylesheet.free_of_mem_segments hseg _ hmem) (by decide)
      exact Stylesheet.parse?_closing hd hfree hclosing
    · intro line d' hd' hname' t ht hlower
      obtain ⟨e, he, hstatus, -⟩ := (Stylesheet.reports_of_mem_scan hf).entry
      cases halone : index.markup.get? value with
      | some other =>
        rw [← hlower] at halone ⊢
        rw [resolve_valueToken_alone ht halone line]
        exact .alone halone
      | none =>
        have hwhole : Text.lower d'.name ++ "::" ++ Text.lower t = f.key := by rw [hkey, hname', hlower]
        rw [resolve_valueToken ht hd' (hlower.symm ▸ halone) (hwhole.symm ▸ he), hwhole]
        exact .reported halone he hstatus

/-- Two values in one declaration, one of which the index has alone. -/
theorem resolve_declared_balance :
    let balance : Entry := { id := "balance", name := [], status := .newly }
    let auto : Entry := { id := "auto", name := [], status := .limited }
    let name : Text := "text-wrap"
    let value : Text := "balance"
    let other : Text := "auto"
    let index : Index := { markup := [(name ++ "::" ++ value, balance), (other, auto)] }
    let s : Text := "\tText-Wrap : BALANCE, auto"
    let d : Declaration := ⟨1, "Text-Wrap", 11, "BALANCE, auto"⟩
    let text : Text := "a\x7b\n\tText-Wrap : BALANCE, auto;\x7d"
    let f : Finding := ⟨Range.onLine 1 13 20, .newly, "Text-Wrap: BALANCE", name ++ "::" ++ value⟩
    Declaration.parse? s = some d ∧ ';' ∉ s ∧ valueTokens d.value = ["BALANCE", "auto"] ∧ IsClosing "; " ∧
    resolve index "BALANCE" (s ++ "; ") = resolve index "BALANCE" s ∧
    resolve index "BALANCE" s = some (name ++ "::" ++ value, balance) ∧
    resolve index "auto" s = some (other, auto) ∧
    f ∈ Stylesheet.scan text index ∧ name ≠ [] ∧ ':' ∉ name ∧
    FindsValue index f value (resolve index "BALANCE" s) := by
  intro balance auto name value other index s d text f
  have hd : Declaration.parse? s = some d := by decide +kernel
  have hs : ';' ∉ s := by decide
  have htokens : valueTokens d.value = ["BALANCE", "auto"] := by decide +kernel
  have hbalance : "BALANCE".toList ∈ valueTokens d.value := by rw [htokens]; exact List.mem_cons_self ..
  have hauto : "auto".toList ∈ valueTokens d.value := by rw [htokens]; simp
  have hclosing : IsClosing "; " := .semicolon (Text.forall_mem_of_all (by decide))
  have hf : f ∈ Stylesheet.scan text index := by decide +kernel
  have hname : name ≠ [] := by decide
  have hcolon : ':' ∉ name := by decide
  obtain ⟨hagree, hreported⟩ := resolve_declared index
  obtain ⟨hsame, -, hvalue⟩ := hagree s d hd hs _ hbalance
  obtain ⟨-, -, -, -, -, -, -, -, hfinds⟩ := hreported text f hf name value hname hcolon rfl
  refine ⟨hd, hs, htokens, hclosing, hsame _ hclosing, ?_, ?_, hf, hname, hcolon, ?_⟩
  · exact hvalue balance (by decide +kernel) (by decide +kernel)
  · exact (hagree s d hd hs _ hauto).2.1 auto (by decide +kernel)
  · exact hfinds s d hd (by decide +kernel) _ hbalance (by decide +kernel)

end WebBaseline.Lookup
