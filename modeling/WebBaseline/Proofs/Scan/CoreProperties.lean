import WebBaseline.Proofs.Index.Contents
import WebBaseline.Proofs.Markup.Construct
import WebBaseline.Proofs.Stylesheet.Spot
import WebBaseline.Script.Scan

/-! What core properties do to a scan.

Two indexes of one dataset, one of them with core properties, differ in the markup table only, and there
in the keys of the core properties only, which the second one holds as widely available (`build_pins`).
Such a key may be new. In a style sheet that takes away exactly the findings under these keys. In a
document it may also take away another one: an attribute whose value or whose name on its element is now
known is no longer looked up by a later key. It never adds a finding and never changes one.
`scan_core` puts this together, with scripts, whose findings stay as they are. -/
namespace WebBaseline

/-- Core properties pin their keys and leave the others. -/
theorem Index.build_pins (render : Feature.Renderer) (table : Json) (dataset : Feature.Dataset)
    (core : List Text) :
    (build render table dataset []).markup.Pins (IsCore core)
      (build render table dataset core).markup := by
  have hnone : ∀ k, ¬ IsCore [] k := fun k ⟨_, _, hraw, _⟩ => List.not_mem_nil hraw
  refine ⟨fun k hk => ?_, fun k hk => ?_⟩
  · unfold build
    rw [get?_ofRecords_markup, get?_ofRecords_markup, if_neg hk, if_neg (hnone k)]
  · unfold build
    rw [get?_ofRecords_markup, if_pos hk]
    exact ⟨_, rfl, pinnedEntry_widely k _⟩

theorem Stylesheet.scan_pins {core : Text → Prop} [DecidablePred core] {before after : Index}
    (h : before.markup.Pins core after.markup) (text : Text) :
    scan text after = (scan text before).filter fun f => ¬ core f.key := by
  rw [scan_eq_mentions, scan_eq_mentions, List.filter_filterMap]
  congr 1
  funext m
  exact Mention.finding?_pins h m

theorem filterMap_sublist_filterMap {α β : Type} {f g : α → Option β}
    (h : ∀ a, g a = none ∨ g a = f a) (l : List α) : (l.filterMap g).Sublist (l.filterMap f) := by
  induction l with
  | nil => exact .slnil
  | cons a rest ih =>
    rw [List.filterMap_cons, List.filterMap_cons]
    rcases h a with ha | ha
    · rw [ha]
      cases f a with
      | none => exact ih
      | some b => exact ih.cons b
    · rw [ha]
      cases f a with
      | none => exact ih
      | some b => exact ih.cons_cons b

theorem Markup.scan_pins {core : Text → Prop} {before after : Index}
    (h : before.markup.Pins core after.markup) (text : Text) :
    (scan text after).Sublist (scan text before) ∧ ∀ f ∈ scan text after, ¬ core f.key := by
  rw [scan_eq_constructs, scan_eq_constructs]
  constructor
  · apply filterMap_sublist_filterMap
    intro ms
    rcases Mention.firstFinding?_pins h ms with hnone | ⟨f, hafter, hbefore, -⟩
    · exact .inl hnone
    · exact .inr (hafter.trans hbefore.symm)
  · intro f hf
    obtain ⟨ms, -, hms⟩ := List.mem_filterMap.mp hf
    rcases Mention.firstFinding?_pins h ms with hnone | ⟨f', hafter, -, hcore⟩
    · rw [hnone] at hms
      cases hms
    · rw [hafter] at hms
      cases hms
      exact hcore

/-- **Core properties only take findings away.** -/
theorem scan_core (render : Feature.Renderer) (table : Json) (dataset : Feature.Dataset)
    (core : List Text) :
    let before := Index.build render table dataset []
    let after := Index.build render table dataset core
    (∀ text, Stylesheet.scan text after =
      (Stylesheet.scan text before).filter fun f => ¬ Index.IsCore core f.key) ∧
    (∀ text, (Markup.scan text after).Sublist (Markup.scan text before) ∧
      ∀ f ∈ Markup.scan text after, ¬ Index.IsCore core f.key) ∧
    (∀ source root, Script.scanTree source after root = Script.scanTree source before root) :=
  have h := Index.build_pins render table dataset core
  ⟨Stylesheet.scan_pins h, Markup.scan_pins h, fun _ _ => rfl⟩

/-- Of two global attributes, the one whose name on the element becomes a core property is no longer
reported, and the other one still is. -/
theorem scan_core_popover :
    let record (path : Text) : Json :=
      .obj [("baseline", .str "low"), ("compat_features", .arr [.str path])]
    let dataset : Feature.Dataset :=
      [("popover", record "html.global_attributes.popover"),
        ("inert", record "html.global_attributes.inert")]
    let before := Index.build some .null dataset []
    let after := Index.build some .null dataset ["P@Popover "]
    let popover : Finding := ⟨Range.onLine 0 3 10, .newly, "popover", "popover"⟩
    let inert : Finding := ⟨Range.onLine 0 11 16, .newly, "inert", "inert"⟩
    Markup.scan "<p popover inert>" before = [popover, inert] ∧
      Markup.scan "<p popover inert>" after = [inert] ∧
      (Markup.scan "<p popover inert>" after).Sublist (Markup.scan "<p popover inert>" before) ∧
      ¬ Index.IsCore ["P@Popover "] inert.key := by
  intro record dataset before after popover inert
  have hbefore : Markup.scan "<p popover inert>" before = [popover, inert] := by decide +kernel
  have hafter : Markup.scan "<p popover inert>" after = [inert] := by decide +kernel
  have hscan := (scan_core some .null dataset ["P@Popover "]).2.1 "<p popover inert>"
  exact ⟨hbefore, hafter, hscan.1, hscan.2 inert (by rw [hafter]; exact List.mem_singleton_self _)⟩

end WebBaseline
