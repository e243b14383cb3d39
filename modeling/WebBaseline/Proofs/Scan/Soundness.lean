import WebBaseline.Language
import WebBaseline.Proofs.Markup.Construct
import WebBaseline.Proofs.Script.Chain
import WebBaseline.Proofs.Stylesheet.Spot
import WebBaseline.Proofs.Text.Pieces

/-! Findings report what the index holds.

Every finding of every scanner names a key of the table that the scanner looks things up in, with the
status of the entry there, which is not widely available, and with the name of that entry or, if it has
none, some other text (`Finding.Reports`). `scan_sound` says so of style sheets, of HTML documents, of
any syntax tree whatever its source, and of the languages by name. -/
namespace WebBaseline

/-! ### Style sheets and documents -/

theorem Stylesheet.reports_of_mem_scan {text : Text} {index : Index} {f : Finding}
    (h : f ∈ Stylesheet.scan text index) : f.Reports index.markup := by
  rw [Stylesheet.scan_eq_mentions] at h
  obtain ⟨m, hm, hf⟩ := List.mem_filterMap.mp h
  obtain ⟨p, -, hm⟩ := List.mem_flatMap.mp hm
  obtain ⟨spot, hspot, rfl⟩ := List.mem_map.mp hm
  exact Mention.reports_of_finding? (Stylesheet.Placed.fits_spots hspot).named hf

theorem Markup.reports_of_mem_scan {text : Text} {index : Index} {f : Finding}
    (h : f ∈ Markup.scan text index) : f.Reports index.markup := by
  rw [Markup.scan_eq_constructs] at h
  obtain ⟨ms, hms, hf⟩ := List.mem_filterMap.mp h
  exact Mention.reports_of_firstFinding? (Markup.named_constructs text ms hms) hf

/-! ### Scripts -/

namespace Script

theorem reports_of_chainFinding {script : Table Entry} {s : Source} {n : Node} {f : Finding}
    (h : chainFinding script s n = some f) : f.Reports script := by
  obtain ⟨m, key, label, e, hdecisive, hf⟩ := exists_of_chainFinding h
  obtain ⟨root, names, -, hnames, -, hlabel, hkey, -⟩ :=
    exists_of_lookupChain (lookupChain_of_decisive? hdecisive)
  have hnamed : label ≠ [] := by
    rw [hlabel, Text.join_cons hnames]
    simp
  rw [← hkey] at hf
  exact Mention.reports_of_finding? (m := ⟨key, s.range m, label⟩) hnamed hf

theorem reports_of_constructFinding {script : Table Entry} {s : Source} {n : Node} {f : Finding}
    (h : constructFinding script s n = some f) : f.Reports script := by
  unfold constructFinding at h
  split at h
  · cases h
  · split at h
    · simp only at h
      split at h
      · exact Mention.reports_of_finding? (m := ⟨_, s.range n, _⟩) (by simp) h
      · cases h
    · cases h

theorem reports_of_mem_scanTree {s : Source} {index : Index} {root : Node} {f : Finding}
    (h : f ∈ scanTree s index root) : f.Reports index.script := by
  obtain ⟨v, -, ⟨-, hchain⟩ | ⟨-, hconstruct⟩⟩ := exists_visit_of_mem_scanTree h
  · exact reports_of_chainFinding hchain
  · exact reports_of_constructFinding hconstruct

end Script

/-! ### Languages -/

/-- The table that the scanner of a language looks things up in. -/
def Language.table (index : Index) : Language → Table Entry
  | .css | .html => index.markup
  | _ => index.script

theorem Script.reports_of_mem_scan {d : Dialect} {text : Text} {index : Index} {parse : Parser} {f : Finding}
    (h : f ∈ Script.scan d text index parse) : f.Reports index.script := by
  unfold Script.scan at h
  split at h
  · cases h
  · exact reports_of_mem_scanTree h

theorem Language.reports_of_mem_scan {l : Language} {text : Text} {index : Index} {parse : Script.Parser}
    {f : Finding} (h : f ∈ l.scan text index parse) : f.Reports (l.table index) := by
  cases l with
  | css => exact Stylesheet.reports_of_mem_scan h
  | html => exact Markup.reports_of_mem_scan h
  | javascript | javascriptReact | typescript | typescriptReact => exact Script.reports_of_mem_scan h

/-- **Every scanner is sound.** The clause on syntax trees is for any tree, parsed or not, and that on
languages for any name, known or not, and for any parser. -/
theorem scan_sound :
    (∀ text index, ∀ f ∈ Stylesheet.scan text index, f.Reports index.markup) ∧
    (∀ text index, ∀ f ∈ Markup.scan text index, f.Reports index.markup) ∧
    (∀ source index root, ∀ f ∈ Script.scanTree source index root, f.Reports index.script) ∧
    (∀ text name index parse, ∀ f ∈ scan text name index parse,
      ∃ l, Language.ofName? name = some l ∧ f.Reports (l.table index)) := by
  refine ⟨fun _ _ _ => Stylesheet.reports_of_mem_scan, fun _ _ _ => Markup.reports_of_mem_scan,
    fun _ _ _ _ => Script.reports_of_mem_scanTree, fun text name index parse f h => ?_⟩
  unfold scan at h
  split at h
  · rename_i l hl
    exact ⟨l, hl, Language.reports_of_mem_scan h⟩
  · cases h

/-- One finding of each scanner. The entry of `gap` has no name, so its label is the fallback. -/
theorem scan_sound_gap_popover_share :
    let index : Index :=
      { markup := [
          ("gap", { id := "gap", name := [], status := .limited }),
          ("input@popover", { id := "popover", name := "Popover", status := .newly })]
        script := [("navigator.share", { id := "share", name := "Share", status := .newly })] }
    let gap : Finding := ⟨Range.onLine 0 2 5, .limited, "gap", "gap"⟩
    let popover : Finding := ⟨Range.onLine 0 7 14, .newly, "Popover", "input@popover"⟩
    let share : Finding := ⟨Range.onLine 0 0 15, .newly, "Share", "navigator.share"⟩
    let root : Script.Node := .mk none .member false 0 15 [
      .mk (some .object) .identifier false 0 9 [], .mk (some .property) .propertyName false 10 15 []]
    gap.Reports index.markup ∧ popover.Reports index.markup ∧ share.Reports index.script ∧
      (∃ l, Language.ofName? "css" = some l ∧ gap.Reports (l.table index)) ∧
      gap ∈ scan "a\x7bgap:1px\x7d" "css" index ∧ popover ∈ Markup.scan "<input popover>" index ∧
      share ∈ Script.scanTree (Script.Source.ofText "navigator.share") index root := by
  intro index gap popover share root
  have hgap : gap ∈ Stylesheet.scan "a\x7bgap:1px\x7d" index := by decide +kernel
  have hpopover : popover ∈ Markup.scan "<input popover>" index := by decide +kernel
  have hshare : share ∈ Script.scanTree (Script.Source.ofText "navigator.share") index root := by
    decide +kernel
  exact ⟨scan_sound.1 _ _ _ hgap, scan_sound.2.1 _ _ _ hpopover, scan_sound.2.2.1 _ _ _ _ hshare,
    scan_sound.2.2.2 "a\x7bgap:1px\x7d" "css" index Script.parse? gap hgap, hgap, hpopover, hshare⟩

end WebBaseline
