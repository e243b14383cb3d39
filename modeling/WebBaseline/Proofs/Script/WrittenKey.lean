import WebBaseline.Proofs.Feature.ScriptKey
import WebBaseline.Proofs.Index.Contents
import WebBaseline.Proofs.Script.Chain

/-! Chains are found as they are written.

A chain is looked up as it is written, `navigator.share`, and only then by interface, `Navigator.share`.
An index that was built from a dataset holds every member of a global object under both keys, whatever
the records overwrite (`knowsWritten_build`). So the second look never decides, and the key of a finding
is the path of the link that decided (`scanTree_written`). -/
namespace WebBaseline.Script

/-- What the table knows about a global object by its interface, it knows as it is written. -/
def KnowsWritten (script : Table Entry) : Prop :=
  ∀ root ∈ globalRoots, ∀ rest : Text, (script.get? (capitalise root ++ "." ++ rest)).isSome →
    (script.get? (root ++ "." ++ rest)).isSome

/-- A capital global object is an interface, and the object of that interface is the global one. -/
theorem objectName_capitalise {root : Text} (h : root ∈ globalRoots) :
    '.' ∉ capitalise root ∧ (capitalise root).head?.any (fun c => Text.IsCapital c) = true ∧
      Feature.objectName (capitalise root) = root := by
  have hall : ∀ root ∈ globalRoots, '.' ∉ capitalise root ∧
      (capitalise root).head?.any (fun c => Text.IsCapital c) = true ∧
      Feature.objectName (capitalise root) = root := by decide +kernel
  exact hall root h

/-- The path that gives a key by interface gives the written one, too. -/
theorem knowsWritten_build (render : Feature.Renderer) (table : Json) (dataset : Feature.Dataset)
    (core : List Text) : KnowsWritten (Index.build render table dataset core).script := by
  intro root hroot rest h
  obtain ⟨r, hr, path, hpath, hscript, hkey⟩ := (Index.isSome_get?_script_iff _ core _).mp h
  obtain ⟨hfree, hcapital, hobject⟩ := objectName_capitalise hroot
  obtain ⟨c, hhead, hc⟩ := (Option.any_eq_true _ _).mp hcapital
  have hwritten := Feature.object_mem_scriptKeys hfree hhead (of_decide_eq_true hc) hkey
  rw [hobject] at hwritten
  exact (Index.isSome_get?_script_iff _ core _).mpr ⟨r, hr, path, hpath, hscript, hwritten⟩

/-- Where written keys are known, the look by interface finds nothing new. -/
theorem written_of_lookupChain {script : Table Entry} (hscript : KnowsWritten script)
    {source : List UInt8} {n : Node} {key label : Text} {e : Entry}
    (h : lookupChain script source n = some (key, label, e)) :
    ∃ root names, path? source n = some (root :: names) ∧ root ∈ globalRoots ∧
      key = Text.join "." (root :: names) ∧ label = key := by
  obtain ⟨root, names, hpath, hnames, hroot, hlabel, hkey, hwritten | ⟨hnone, hcapital⟩⟩ :=
    exists_of_lookupChain h
  · exact ⟨root, names, hpath, hroot, hwritten.trans hlabel, hwritten.symm⟩
  · rw [hcapital, Text.join_cons hnames] at hkey
    have hknown := hscript root hroot (Text.join "." names) (Option.isSome_of_eq_some hkey)
    rw [← Text.join_cons hnames, ← hlabel, hnone] at hknown
    cases hknown

/-- The finding of a chain is on the link that decides, under the path of that link. -/
theorem written_of_chainFinding {script : Table Entry} (hscript : KnowsWritten script) {s : Source}
    {n : Node} {f : Finding} (h : chainFinding script s n = some f) :
    ∃ m label e, decisive? script s.bytes n = some (m, f.key, label, e) ∧ f.range = s.range m ∧
      ∃ root names, path? s.bytes m = some (root :: names) ∧ root ∈ globalRoots ∧
        f.key = Text.join "." (root :: names) := by
  obtain ⟨m, label, e, hdecisive, hrange⟩ := decisive?_of_chainFinding h
  obtain ⟨root, names, hpath, hroot, hkey, -⟩ :=
    written_of_lookupChain hscript (lookupChain_of_decisive? hdecisive)
  exact ⟨m, label, e, hdecisive, hrange, root, names, hpath, hroot, hkey⟩

/-- **A built index is read by written keys.** For any dataset, compatibility table and core
properties, what the index knows of a global object by its interface it knows as written, a chain is
known as it is written, and each finding of a tree is that of a construction or has the path of the
deciding link as its key. -/
theorem scanTree_written (render : Feature.Renderer) (table : Json) (dataset : Feature.Dataset)
    (core : List Text) :
    let index := Index.build render table dataset core
    (∀ root ∈ globalRoots, ∀ rest : Text,
      (index.script.get? (capitalise root ++ "." ++ rest)).isSome →
        (index.script.get? (root ++ "." ++ rest)).isSome) ∧
    (∀ source n key label e, lookupChain index.script source n = some (key, label, e) →
      ∃ root names, path? source n = some (root :: names) ∧ root ∈ globalRoots ∧
        key = Text.join "." (root :: names) ∧ label = key) ∧
    (∀ s tree, ∀ f ∈ scanTree s index tree, ∃ v ∈ tree.visits,
      v.node.kind = .construct ∧ constructFinding index.script s v.node = some f ∨
      v.node.isLink ∧ chainFinding index.script s v.node = some f ∧
        ∃ m label e, decisive? index.script s.bytes v.node = some (m, f.key, label, e) ∧
          f.range = s.range m ∧ ∃ root names, path? s.bytes m = some (root :: names) ∧
            root ∈ globalRoots ∧ f.key = Text.join "." (root :: names)) := by
  intro index
  have hscript : KnowsWritten index.script := knowsWritten_build render table dataset core
  refine ⟨hscript, fun _ _ _ _ _ => written_of_lookupChain hscript, fun s tree f hf => ?_⟩
  obtain ⟨v, hv, ⟨hlink, hchain⟩ | hconstruct⟩ := exists_visit_of_mem_scanTree hf
  · exact ⟨v, hv, .inr ⟨hlink, hchain, written_of_chainFinding hscript hchain⟩⟩
  · exact ⟨v, hv, .inl hconstruct⟩

/-- A later record with an odd interface takes over the written key and not the one by interface. The
chain is still found under the written key, on its inner link. -/
theorem scanTree_written_share :
    let record (path : Text) (status : Json) : Json :=
      .obj [("baseline", status), ("compat_features", .arr [.str path])]
    let dataset : Feature.Dataset :=
      [("share", record "api.Navigator.share" (.str "low")),
        ("odd", record "api.navigator.share" (.bool false))]
    let index := Index.build some .null dataset ["gap"]
    let link : Node := .mk (some .object) .member false 0 15 [
      .mk (some .object) .identifier false 0 9 [], .mk (some .property) .propertyName false 10 15 []]
    let tree : Node :=
      .mk none .member false 0 20 [link, .mk (some .property) .propertyName false 16 20 []]
    let s := Source.ofText "navigator.share.name"
    let odd : Finding := ⟨Range.onLine 0 0 15, .limited, "odd", "navigator.share"⟩
    (index.script.get? "Navigator.share").map (·.id) = some "share" ∧
      (index.script.get? "navigator.share").isSome ∧ scanTree s index tree = [odd] ∧
      ∃ v ∈ tree.visits, v.node.kind = .construct ∧ constructFinding index.script s v.node = some odd ∨
        v.node.isLink ∧ chainFinding index.script s v.node = some odd ∧
          ∃ m label e, decisive? index.script s.bytes v.node = some (m, odd.key, label, e) ∧
            odd.range = s.range m ∧ ∃ root names, path? s.bytes m = some (root :: names) ∧
              root ∈ globalRoots ∧ odd.key = Text.join "." (root :: names) := by
  intro record dataset index link tree s odd
  obtain ⟨hknows, -, hscan⟩ := scanTree_written some .null dataset ["gap"]
  have hfindings : scanTree s index tree = [odd] := by decide +kernel
  have hodd : odd ∈ scanTree s index tree := by
    rw [hfindings]
    exact List.mem_singleton_self odd
  exact ⟨by decide +kernel, hknows "navigator" (by decide) "share" (by decide +kernel), hfindings,
    hscan s tree odd hodd⟩

end WebBaseline.Script
