import WebBaseline.Proofs.Scan.Mention
import WebBaseline.Proofs.Script.Prefix
import WebBaseline.Proofs.Script.Range
import WebBaseline.Proofs.Script.Walk

/-! Findings in the order of the script.

In a tree as a parser lays it out (`IsLaidOut`), of two visits in preorder the second one is below the
first or stands behind it (`pairwise_below`). All links below a plain link belong to its chain
(`isObject_of_isPlain`), so what else is visited below a chain stands behind its deciding link
(`stop_le_start_of_mem_under`). Hence the order of the findings, and chains that keep apart
(`scanTree_ordered`). -/
namespace WebBaseline.Script

/-- Whether there is a link in a tree, at its root or below. -/
def Node.HasLink (n : Node) : Prop :=
  ∃ v ∈ n.visits, v.node.isLink

instance (n : Node) : Decidable n.HasLink :=
  inferInstanceAs (Decidable (∃ v ∈ n.visits, _))

/-- A node as a parser lays it out. Its children come in the order of the source, with stretches of their
own, none of them empty, within that of the node. The object of a link is a child and starts where the
link does, further links are in its object and in the index of a subscript only, and identifiers and
strings have none. -/
structure Node.IsLaidOut (n : Node) : Prop where
  nonempty : ∀ c ∈ n.children, c.start < c.stop
  within : ∀ c ∈ n.children, n.start ≤ c.start ∧ c.stop ≤ n.stop
  ordered : n.children.Pairwise fun c d => c.stop ≤ d.start
  object : n.isLink → ∀ o ∈ n.child? .object, o ∈ n.children ∧ o.start = n.start
  confined : n.isLink → ∀ c ∈ n.children, c.HasLink →
    n.child? .object = some c ∨ n.kind = .subscript ∧ n.child? .index = some c
  bare : n.kind = .identifier ∨ n.kind = .string → ¬ n.HasLink

instance (n : Node) : Decidable n.IsLaidOut :=
  decidable_of_iff (_ ∧ _ ∧ _ ∧ _ ∧ _ ∧ _)
    ⟨fun ⟨h₁, h₂, h₃, h₄, h₅, h₆⟩ => ⟨h₁, h₂, h₃, h₄, h₅, h₆⟩,
      fun ⟨h₁, h₂, h₃, h₄, h₅, h₆⟩ => ⟨h₁, h₂, h₃, h₄, h₅, h₆⟩⟩

theorem Node.IsLaidOut.regular {n : Node} (h : n.IsLaidOut) : n.Regular where
  nonempty := h.nonempty
  apart := h.ordered.imp .inl
  object_mem hlink o ho := (h.object hlink o ho).1

/-! ### Visits below a visit -/

namespace Visit

/-- All visits of nodes below a visit. -/
def under (v : Visit) : List Visit :=
  v.next.flatMap below

theorem below_eq_cons (v : Visit) : v.below = v :: v.under :=
  below_eq v

theorem mem_under_iff {v w : Visit} :
    w ∈ v.under ↔ ∃ c ∈ v.node.children, w ∈ below ⟨some v.node, c⟩ := by
  simp [under, next]

theorem mem_below_child {v w : Visit} {c : Node} (hc : c ∈ v.node.children)
    (hw : w ∈ below ⟨some v.node, c⟩) : w ∈ v.below := by
  rw [below_eq_cons]
  exact List.mem_cons_of_mem _ (mem_under_iff.mpr ⟨c, hc, hw⟩)

theorem self_mem_below (v : Visit) : v ∈ v.below := by
  rw [below_eq_cons]
  exact List.mem_cons_self ..

theorem size_le_sizes {c : Node} {l : List Node} (h : c ∈ l) : c.size ≤ Node.sizes l := by
  obtain ⟨a, b, rfl⟩ := List.append_of_mem h
  rw [Node.sizes_append, Node.sizes]
  omega

/-- What holds of a visit if it holds of those of the children holds of every visit. -/
@[elab_as_elim]
theorem induct {motive : Visit → Prop}
    (visit : ∀ v : Visit, (∀ c ∈ v.node.children, motive ⟨some v.node, c⟩) → motive v)
    (v : Visit) : motive v := by
  induction hn : v.node.size using Nat.strongRecOn generalizing v with
  | _ n ih =>
    refine visit v fun c hc => ih c.size ?_ _ rfl
    have hchild := size_le_sizes hc
    have hnode := Node.size_eq v.node
    omega

theorem mem_below_trans {r v u : Visit} (hv : v ∈ r.below) (hu : u ∈ v.below) : u ∈ r.below := by
  induction r using induct with
  | visit r ih =>
    rw [below_eq_cons] at hv
    rcases List.mem_cons.mp hv with rfl | hv
    · exact hu
    · obtain ⟨c, hc, hv⟩ := mem_under_iff.mp hv
      exact mem_below_child hc (ih c hc hv)

end Visit

theorem Node.visits_eq_below (n : Node) : n.visits = Visit.below ⟨none, n⟩ := rfl

theorem hasLink_of_mem_below {v w : Visit} (hw : w ∈ v.below) (h : w.node.isLink) :
    v.node.HasLink := by
  rw [Visit.below_eq_cons] at hw
  rcases List.mem_cons.mp hw with rfl | hw
  · exact ⟨⟨none, w.node⟩, Visit.self_mem_below _, h⟩
  · refine ⟨w, ?_, h⟩
    rw [Node.visits_eq_below, Visit.below_eq_cons]
    exact List.mem_cons_of_mem _ hw

/-! ### Places -/

/-- What is visited below a node that takes up a stretch stands within that stretch. -/
theorem within_of_mem_below {v : Visit} (h : ∀ u ∈ v.below, u.node.IsLaidOut)
    (hv : v.node.start < v.node.stop) {w : Visit} (hw : w ∈ v.below) :
    v.node.start ≤ w.node.start ∧ w.node.start < w.node.stop ∧ w.node.stop ≤ v.node.stop := by
  induction v using Visit.induct with
  | visit v ih =>
    rw [Visit.below_eq_cons] at hw
    rcases List.mem_cons.mp hw with rfl | hw
    · exact ⟨Nat.le_refl _, hv, Nat.le_refl _⟩
    · obtain ⟨c, hc, hw⟩ := Visit.mem_under_iff.mp hw
      have hlaid := h v (Visit.self_mem_below v)
      have hwithin := hlaid.within c hc
      obtain ⟨hstart, hne, hstop⟩ := ih c hc (fun u hu => h u (Visit.mem_below_child hc hu))
        (hlaid.nonempty c hc) hw
      exact ⟨Nat.le_trans hwithin.1 hstart, hne, Nat.le_trans hstop hwithin.2⟩

/-- The places of what is visited below a child. -/
theorem within_child {v : Visit} (h : ∀ u ∈ v.below, u.node.IsLaidOut) {c : Node}
    (hc : c ∈ v.node.children) {w : Visit} (hw : w ∈ Visit.below ⟨some v.node, c⟩) :
    c.start ≤ w.node.start ∧ w.node.start < w.node.stop ∧ w.node.stop ≤ c.stop :=
  within_of_mem_below (fun u hu => h u (Visit.mem_below_child hc hu))
    ((h v (Visit.self_mem_below v)).nonempty c hc) hw

/-- Of two visits in preorder, the second one is below the first or stands behind it. -/
theorem pairwise_below {v : Visit} (h : ∀ u ∈ v.below, u.node.IsLaidOut) :
    v.below.Pairwise fun u w =>
      w ∈ u.under ∨ u.node.start < u.node.stop ∧ u.node.stop ≤ w.node.start := by
  induction v using Visit.induct with
  | visit v ih =>
    have hlaid := h v (Visit.self_mem_below v)
    rw [Visit.below_eq_cons, List.pairwise_cons]
    refine ⟨fun w hw => .inl hw, ?_⟩
    rw [Visit.under, Visit.next, List.flatMap_map, List.pairwise_flatMap]
    refine ⟨fun c hc => ih c hc fun u hu => h u (Visit.mem_below_child hc hu), ?_⟩
    -- Different children stand one behind the other, and so does all that is below them.
    refine hlaid.ordered.imp_of_mem fun {c d} hc hd hcd u hu w hw => .inr ?_
    obtain ⟨-, hne, hstop⟩ := within_child h hc hu
    obtain ⟨hstart, -, -⟩ := within_child h hd hw
    exact ⟨hne, by omega⟩

/-! ### Chains -/

theorem IsPlain.exists_object {source : List UInt8} {n : Node} {root : Text} {names : List Text}
    (h : IsPlain source n root names) : ∃ o, n.child? .object = some o ∧
      (o.isLink → ∃ inner, IsPlain source o root inner) ∧ (¬ o.isLink → o.kind = .identifier) := by
  obtain ⟨hlink, hnamed, ⟨base, hbase, hkind, hroot⟩, hglobal⟩ := h
  rw [Node.base?_of_isLink hlink] at hbase
  obtain ⟨o, ho, hbase⟩ := Option.bind_eq_some_iff.mp hbase
  refine ⟨o, ho, fun holink => ?_, fun holink => ?_⟩
  · rw [Node.reverse_chain hlink ho, List.map_append] at hnamed
    obtain ⟨inner, last, -, hinner, -⟩ := List.map_eq_append_iff.mp hnamed.symm
    exact ⟨inner, holink, hinner.symm, ⟨base, hbase, hkind, hroot⟩, hglobal⟩
  · rw [Node.base?_of_not_isLink holink] at hbase
    cases hbase
    exact hkind

/-- The index of a plain subscript is a string. -/
theorem IsPlain.exists_index {source : List UInt8} {n : Node} {root : Text} {names : List Text}
    (h : IsPlain source n root names) (hkind : n.kind = .subscript) :
    ∃ i, n.child? .index = some i ∧ i.kind = .string := by
  have hname := accessedName?_ne_none h.named (Node.self_mem_chain h.linked)
  unfold accessedName? at hname
  rw [if_neg (by simp [hkind])] at hname
  cases hindex : n.child? .index with
  | none => simp [hindex] at hname
  | some i =>
    refine ⟨i, rfl, ?_⟩
    by_contra hstring
    simp [hindex, hstring] at hname

/-- All links below a plain one are objects, down to the innermost link of its chain. -/
theorem isObject_of_isPlain {source : List UInt8} {v : Visit} (h : ∀ u ∈ v.below, u.node.IsLaidOut)
    {root : Text} {names : List Text} (hplain : IsPlain source v.node root names) {w : Visit}
    (hw : w ∈ v.under) (hlink : w.node.isLink) : w.IsObject := by
  induction v using Visit.induct generalizing names with
  | visit v ih =>
    obtain ⟨c, hc, hw⟩ := Visit.mem_under_iff.mp hw
    have hbelow : ∀ u ∈ Visit.below ⟨some v.node, c⟩, u.node.IsLaidOut :=
      fun u hu => h u (Visit.mem_below_child hc hu)
    have hchild : c.IsLaidOut := hbelow _ (Visit.self_mem_below _)
    have hhas : c.HasLink := hasLink_of_mem_below hw hlink
    obtain ⟨o, ho, hinner, hbase⟩ := hplain.exists_object
    rcases (h v (Visit.self_mem_below v)).confined hplain.linked c hc hhas with hobject | hindex
    · -- The link is in the object, which belongs to the chain.
      have hcbase := hchild.bare
      obtain rfl : o = c := Option.some.inj (ho.symm.trans hobject)
      rw [Visit.below_eq_cons] at hw
      rcases List.mem_cons.mp hw with rfl | hw
      · exact ⟨v.node, rfl, hplain.linked, ho⟩
      · by_cases holink : o.isLink
        · obtain ⟨inner, hoplain⟩ := hinner holink
          exact ih o hc hbelow hoplain hw
        · exact absurd hhas (hcbase (.inl (hbase holink)))
    · -- The index is a string and has no links.
      obtain ⟨i, hi, hstring⟩ := hplain.exists_index hindex.1
      obtain rfl : i = c := Option.some.inj (hi.symm.trans hindex.2)
      exact absurd hhas (hchild.bare (.inr hstring))

theorem Node.mem_chain_iff {n m : Node} (h : n.isLink) :
    m ∈ n.chain ↔ m = n ∨ ∃ o, n.child? .object = some o ∧ m ∈ o.chain := by
  rw [Node.chain_of_isLink h, List.mem_cons]
  cases n.child? .object <;> simp

/-- The links of a chain start where it does and end within it. -/
theorem place_of_mem_chain {v : Visit} (h : ∀ u ∈ v.below, u.node.IsLaidOut) {m : Node}
    (hm : m ∈ v.node.chain) : m.start = v.node.start ∧ m.stop ≤ v.node.stop := by
  induction v using Visit.induct with
  | visit v ih =>
    by_cases hlink : v.node.isLink
    · rcases (Node.mem_chain_iff hlink).mp hm with rfl | ⟨o, ho, hm⟩
      · exact ⟨rfl, Nat.le_refl _⟩
      · have hlaid := h v (Visit.self_mem_below v)
        obtain ⟨hchild, hstart⟩ := hlaid.object hlink o ho
        obtain ⟨hsame, hstop⟩ := ih o hchild (fun u hu => h u (Visit.mem_below_child hchild hu)) hm
        exact ⟨hsame.trans hstart, Nat.le_trans hstop (hlaid.within o hchild).2⟩
    · rw [Node.chain_of_not_isLink hlink] at hm
      cases hm

/-- What is visited below a chain and is no object stands behind a plain link of the chain. -/
theorem stop_le_start_of_mem_under {source : List UInt8} {v : Visit}
    (h : ∀ u ∈ v.below, u.node.IsLaidOut) {m : Node} {root : Text} {names : List Text}
    (hm : m ∈ v.node.chain) (hplain : IsPlain source m root names) {w : Visit} (hw : w ∈ v.under)
    (hlink : w.node.isLink) (hobject : ¬ w.IsObject) : m.stop ≤ w.node.start := by
  induction v using Visit.induct with
  | visit v ih =>
    have hv : v.node.isLink := by
      by_contra hv
      rw [Node.chain_of_not_isLink hv] at hm
      cases hm
    rcases (Node.mem_chain_iff hv).mp hm with rfl | ⟨o, ho, hm⟩
    · exact absurd (isObject_of_isPlain h hplain hw hlink) hobject
    · obtain ⟨c, hc, hwc⟩ := Visit.mem_under_iff.mp hw
      have hlaid := h v (Visit.self_mem_below v)
      obtain ⟨hchild, hstart⟩ := hlaid.object hv o ho
      have hbelow : ∀ u ∈ Visit.below ⟨some v.node, o⟩, u.node.IsLaidOut :=
        fun u hu => h u (Visit.mem_below_child hchild hu)
      by_cases hco : c = o
      · subst hco
        rw [Visit.below_eq_cons] at hwc
        rcases List.mem_cons.mp hwc with rfl | hwc
        · exact absurd ⟨v.node, rfl, hv, ho⟩ hobject
        · exact ih c hc hbelow hm hwc
      · -- The object is the first child, so another one stands behind it.
        have hapart : c.stop ≤ o.start ∨ o.stop ≤ c.start :=
          hlaid.regular.apart.forall hc hchild hco
        have hplace := place_of_mem_chain hbelow hm
        have hinside := (hlaid.within c hc).1
        have hne := hlaid.nonempty c hc
        obtain ⟨hbehind, -, -⟩ := within_child h hc hwc
        have hstop : m.stop ≤ o.stop := hplace.2
        omega

/-! ### Findings -/

/-- The findings of a tree, each with the visit that gives it. -/
def Node.reports (script : Table Entry) (s : Source) (root : Node) : List (Visit × Finding) :=
  root.visits.filterMap fun v => (v.finding? script s).map (v, ·)

theorem Node.map_snd_reports (script : Table Entry) (s : Source) (root : Node) :
    (root.reports script s).map (·.2) = root.visits.filterMap (Visit.finding? script s) := by
  rw [Node.reports, List.map_filterMap]
  simp [Function.comp_def]

/-- The finding of a link is that of a plain link in its chain. -/
theorem exists_of_finding?_link {script : Table Entry} {s : Source} {v : Visit} {f : Finding}
    (hf : v.finding? script s = some f) (hlink : v.node.isLink) :
    ¬ v.IsObject ∧ ∃ m ∈ v.node.chain, f.range = s.range m ∧
      ∃ root names, IsPlain s.bytes m root names := by
  unfold Visit.finding? at hf
  split at hf
  · rename_i hv
    obtain ⟨m, label, e, hdecisive, hrange⟩ := decisive?_of_chainFinding hf
    obtain ⟨hm, hlookup⟩ := mem_chain_of_decisive? hdecisive
    obtain ⟨root, names, hplain, -⟩ := (lookupChain_eq_some_iff ..).mp hlookup
    exact ⟨hv.2, m, hm, hrange, root, names, hplain⟩
  · split at hf
    · rename_i hkind
      simp [Node.isLink, hkind] at hlink
    · cases hf

theorem range_of_constructFinding {script : Table Entry} {s : Source} {n : Node} {f : Finding}
    (h : constructFinding script s n = some f) : f.range = s.range n := by
  unfold constructFinding at h
  split at h
  · cases h
  · split at h
    · simp only at h
      split at h
      · exact Mention.range_of_finding? (m := ⟨_, s.range n, _⟩) h
      · cases h
    · cases h

/-- A finding starts where the visited node does. -/
theorem start_of_finding? {script : Table Entry} {text : Text} {v : Visit} {f : Finding}
    (h : ∀ u ∈ v.below, u.node.IsLaidOut)
    (hf : v.finding? script (Source.ofText text) = some f) :
    f.range.start = text.position (Text.Utf8.fitting text v.node.start) := by
  by_cases hlink : v.node.isLink
  · obtain ⟨-, m, hm, hrange, -⟩ := exists_of_finding?_link hf hlink
    rw [hrange, range_ofText, (place_of_mem_chain h hm).1]
    rfl
  · unfold Visit.finding? at hf
    rw [if_neg fun hv => hlink hv.1] at hf
    split at hf
    · rw [range_of_constructFinding hf, range_ofText]
      rfl
    · cases hf

/-- **Findings come in the order of the script.** In a tree that is laid out as a parser does it, the
findings start one behind the other or at the same place, and those of chains end before the next one of
a chain starts. -/
theorem scanTree_ordered (text : Text) (index : Index) (root : Node)
    (h : ∀ v ∈ root.visits, v.node.IsLaidOut) :
    let s := Source.ofText text
    (root.reports index.script s).map (·.2) = scanTree s index root ∧
    (scanTree s index root).Pairwise (fun f g => f.range.start ≤ g.range.start) ∧
    ((root.reports index.script s).filter (·.1.node.isLink)).Pairwise
      fun a b => a.2.range.stop ≤ b.2.range.start := by
  intro s
  have hbelow (v : Visit) (hv : v ∈ root.visits) : ∀ u ∈ v.below, u.node.IsLaidOut :=
    fun u hu => h u (Visit.mem_below_trans (r := ⟨none, root⟩) hv hu)
  have hscan := (scanTree_eq_visits s index root fun v hv => (h v hv).regular).1
  have hpairs := pairwise_below (v := ⟨none, root⟩) h
  refine ⟨(Node.map_snd_reports ..).trans hscan.symm, ?_, ?_⟩
  · rw [hscan, List.pairwise_filterMap]
    refine hpairs.imp_of_mem fun {v w} hv hw hvw f hf g hg => ?_
    rw [start_of_finding? (hbelow v hv) hf, start_of_finding? (hbelow w hw) hg]
    apply position_fitting_le
    rcases hvw with hunder | hbehind
    · obtain ⟨c, hc, hwc⟩ := Visit.mem_under_iff.mp hunder
      have hplace := within_child (hbelow v hv) hc hwc
      have hinside := ((h v hv).within c hc).1
      omega
    · omega
  · rw [List.pairwise_filter, Node.reports, List.pairwise_filterMap]
    refine hpairs.imp_of_mem fun {v w} hv hw hvw a ha b hb halink hblink => ?_
    obtain ⟨f, hf, rfl⟩ := Option.map_eq_some_iff.mp ha
    obtain ⟨g, hg, rfl⟩ := Option.map_eq_some_iff.mp hb
    obtain ⟨-, m, hm, hrange, root', names, hplain⟩ := exists_of_finding?_link hf halink
    obtain ⟨hobject, -⟩ := exists_of_finding?_link hg hblink
    have hstop : m.stop ≤ w.node.start := by
      rcases hvw with hunder | hbehind
      · exact stop_le_start_of_mem_under (hbelow v hv) hm hplain hunder hblink hobject
      · exact Nat.le_trans (place_of_mem_chain (hbelow v hv) hm).2 hbehind.2
    rw [start_of_finding? (hbelow w hw) hg]
    change f.range.stop ≤ _
    rw [hrange, range_ofText]
    exact position_fitting_le text hstop

/-- Behind the wide characters stands a chain of which only the inner part is known. A construction in
its index holds two more chains, one of them in its arguments and one as an index of the other. -/
theorem scanTree_ordered_nested :
    let text : Text := "'é𝄞'; window.name[new Foo(screen.width[history.go])].x"
    let name (kind : Kind) (role : Role) (start stop : Nat) : Node :=
      .mk (some role) kind false start stop []
    let member (role : Option Role) (start dot stop : Nat) : Node :=
      .mk role .member false start stop
        [name .identifier .object start dot, name .propertyName .property (dot + 1) stop]
    let inner : Node := .mk none .subscript false 30 54
      [member (some .object) 30 36 42, member (some .index) 43 50 53]
    let construct : Node := .mk (some .index) .construct false 22 55
      [name .identifier .constructor 26 29, .mk none .other false 29 55 [inner]]
    let outer : Node := .mk (some .object) .subscript false 10 56
      [member (some .object) 10 16 21, construct]
    let root : Node := .mk none .other false 0 58 [.mk none .string false 0 8 [],
      .mk none .member false 10 58 [outer, name .propertyName .property 57 58]]
    let entry : Entry := { id := "id", name := [], status := .newly }
    let index : Index := { script := [("window.name", entry), ("Foo", entry),
      ("Screen.width", entry), ("history.go", entry)] }
    let s := Source.ofText text
    (∀ v ∈ root.visits, v.node.IsLaidOut) ∧
      (root.reports index.script s).map (·.2) = scanTree s index root ∧
      (scanTree s index root).Pairwise (fun f g => f.range.start ≤ g.range.start) ∧
      ((root.reports index.script s).filter (·.1.node.isLink)).Pairwise
        (fun a b => a.2.range.stop ≤ b.2.range.start) ∧
      (scanTree s index root).map (fun f => (f.key, f.range)) = [
        ("window.name".toList, Range.onLine 0 6 17), ("Foo".toList, Range.onLine 0 18 51),
        ("Screen.width".toList, Range.onLine 0 26 38), ("history.go".toList, Range.onLine 0 39 49)] := by
  intro text name member inner construct outer root entry index s
  have hlaid : ∀ v ∈ root.visits, v.node.IsLaidOut := by decide +kernel
  obtain ⟨hreports, hstarts, hchains⟩ := scanTree_ordered text index root hlaid
  exact ⟨hlaid, hreports, hstarts, hchains, by decide +kernel⟩

end WebBaseline.Script
