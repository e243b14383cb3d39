import WebBaseline.Proofs.Script.Chain

/-! The longest known prefix of a chain.

A link is plain if its chain has a name at every link and starts at a global object (`IsPlain`), and the
table knows it if it has its path, as written or with a capital root (`IsKnown`). These are properties of
the chain as a whole; the look-up comes to them link by link (`pathFrom?_eq_some_iff`,
`lookupChain_eq_some_iff`). `chainFinding_longest` says what is found: the first known link from the
outside decides, and links without a name are passed over. -/
namespace WebBaseline.Script

/-- What a chain starts at: the object of its innermost link. -/
def Node.base? (n : Node) : Option Node :=
  if n.isLink then
    match _h : n.child? .object with
    | none => none
    | some object => object.base?
  else some n
termination_by n.size
decreasing_by exact Node.size_lt_of_child? n _h

theorem Node.base?_of_isLink {n : Node} (h : n.isLink) :
    n.base? = (n.child? .object).bind Node.base? := by
  rw [Node.base?, if_pos h]
  split
  · rename_i hobject
    rw [hobject]
    rfl
  · rename_i object hobject
    rw [hobject]
    rfl

theorem Node.base?_of_not_isLink {n : Node} (h : ¬ n.isLink) : n.base? = some n := by
  rw [Node.base?, if_neg h]

/-- A plain link: every link of its chain has a name, and the chain starts at an identifier that is the
name `root` of a global object. `names` are the names of the links from the innermost one outwards. -/
structure IsPlain (source : List UInt8) (n : Node) (root : Text) (names : List Text) : Prop where
  linked : n.isLink
  named : n.chain.reverse.map (accessedName? source) = names.map some
  rooted : ∃ o ∈ n.base?, o.kind = .identifier ∧ o.text source = root
  isGlobal : root ∈ globalRoots

/-- A link that the table knows: it has an entry for its path `label`, or, if it has none, for the path
with a capital root. -/
def IsKnown (script : Table Entry) (source : List UInt8) (n : Node) (key label : Text) (e : Entry) :
    Prop :=
  ∃ root names, IsPlain source n root names ∧ label = Text.join "." (root :: names) ∧
    script.get? key = some e ∧
    (key = label ∨ script.get? label = none ∧ key = Text.join "." (capitalise root :: names))

/-! ### Plain links and their paths -/

theorem Node.self_mem_chain {n : Node} (h : n.isLink) : n ∈ n.chain := by
  rw [Node.chain_of_isLink h]
  exact List.mem_cons_self ..

/-- Where the names of a chain are listed, none is missing. -/
theorem accessedName?_ne_none {source : List UInt8} {n l : Node} {names : List Text}
    (hnamed : n.chain.reverse.map (accessedName? source) = names.map some) (hl : l ∈ n.chain) :
    accessedName? source l ≠ none := by
  intro hnone
  have hmem := List.mem_map_of_mem (f := accessedName? source) (List.mem_reverse.mpr hl)
  rw [hnamed, hnone] at hmem
  simp at hmem

theorem Node.reverse_chain {n o : Node} (h : n.isLink) (ho : n.child? .object = some o) :
    n.chain.reverse = o.chain.reverse ++ [n] := by
  rw [Node.chain_of_isLink h, ho, List.reverse_cons]
  rfl

/-- The names that are gathered on the way inwards are those of all links. -/
theorem pathFrom?_eq_some_iff (source : List UInt8) (n : Node) (rest path : List Text) :
    pathFrom? source n rest = some path ↔
      ∃ root names, path = root :: (names ++ rest) ∧
        n.chain.reverse.map (accessedName? source) = names.map some ∧
        ∃ o ∈ n.base?, o.kind = .identifier ∧ o.text source = root := by
  fun_induction pathFrom? source n rest with
  | case1 n rest hlink hname =>
    refine ⟨nofun, ?_⟩
    rintro ⟨root, names, -, hnamed, -⟩
    exact absurd hname (accessedName?_ne_none hnamed (Node.self_mem_chain hlink))
  | case2 n rest hlink name hname hobject =>
    refine ⟨nofun, ?_⟩
    rintro ⟨root, names, -, -, o, ho, -⟩
    rw [Node.base?_of_isLink hlink, hobject] at ho
    cases ho
  | case3 n rest hlink name hname object hobject ih =>
    rw [ih, Node.reverse_chain hlink hobject, Node.base?_of_isLink hlink, hobject, List.map_append,
      List.map_singleton, hname]
    constructor
    · rintro ⟨root, names, rfl, hnamed, hroot⟩
      exact ⟨root, names ++ [name], by simp, by simp [hnamed], hroot⟩
    · rintro ⟨root, names, rfl, hnamed, hroot⟩
      obtain ⟨inner, last, rfl, hinner, hlast⟩ := List.map_eq_append_iff.mp hnamed.symm
      obtain ⟨name', others, rfl, hname', hothers⟩ := List.map_eq_cons_iff.mp hlast
      cases hname'
      rw [List.map_eq_nil_iff.mp hothers]
      exact ⟨root, inner, by simp, hinner.symm, hroot⟩
  | case4 n rest hlink hkind =>
    rw [Node.chain_of_not_isLink hlink, Node.base?_of_not_isLink hlink]
    constructor
    · rintro ⟨⟩
      exact ⟨_, [], rfl, rfl, n, rfl, hkind, rfl⟩
    · rintro ⟨root, names, rfl, hnamed, o, ho, -, rfl⟩
      cases ho
      rw [List.map_eq_nil_iff.mp hnamed.symm]
      rfl
  | case5 n rest hlink hkind =>
    refine ⟨nofun, ?_⟩
    rintro ⟨root, names, -, -, o, ho, hidentifier, -⟩
    rw [Node.base?_of_not_isLink hlink] at ho
    cases ho
    exact absurd hidentifier hkind

theorem isPlain_iff (source : List UInt8) (n : Node) (root : Text) (names : List Text) :
    IsPlain source n root names ↔
      path? source n = some (root :: names) ∧ names ≠ [] ∧ root ∈ globalRoots := by
  unfold path?
  rw [pathFrom?_eq_some_iff]
  constructor
  · rintro ⟨hlink, hnamed, hroot, hglobal⟩
    refine ⟨⟨root, names, by rw [List.append_nil], hnamed, hroot⟩, ?_, hglobal⟩
    rintro rfl
    rw [Node.chain_of_isLink hlink] at hnamed
    simp at hnamed
  · rintro ⟨⟨root', names', heq, hnamed, hroot⟩, hne, hglobal⟩
    obtain ⟨rfl, rfl⟩ := List.cons.inj heq
    rw [List.append_nil] at hne
    rw [List.append_nil]
    refine ⟨?_, hnamed, hroot, hglobal⟩
    by_contra hlink
    rw [Node.chain_of_not_isLink hlink] at hnamed
    exact hne (List.map_eq_nil_iff.mp hnamed.symm)

/-- The look-up finds what the table knows. -/
theorem lookupChain_eq_some_iff (script : Table Entry) (source : List UInt8) (n : Node)
    (key label : Text) (e : Entry) :
    lookupChain script source n = some (key, label, e) ↔ IsKnown script source n key label e := by
  constructor
  · intro h
    obtain ⟨root, names, hpath, hnames, hroot, hlabel, hkey⟩ := exists_of_lookupChain h
    exact ⟨root, names, (isPlain_iff ..).mpr ⟨hpath, hnames, hroot⟩, hlabel, hkey⟩
  · rintro ⟨root, names, hplain, hlabel, hkey, hcase⟩
    obtain ⟨hpath, hnames, hroot⟩ := (isPlain_iff ..).mp hplain
    obtain ⟨name, names, rfl⟩ := List.exists_cons_of_ne_nil hnames
    unfold lookupChain
    rw [hpath]
    simp only [List.contains_iff_mem.mpr hroot, if_true, ← hlabel]
    rcases hcase with rfl | ⟨hnone, rfl⟩
    · rw [hkey]
    · rw [hnone, hkey]
      rfl

theorem lookupChain_eq_none_iff (script : Table Entry) (source : List UInt8) (n : Node) :
    lookupChain script source n = none ↔ ∀ key label e, ¬ IsKnown script source n key label e := by
  rw [Option.eq_none_iff_forall_ne_some]
  constructor
  · intro h key label e hknown
    exact h (key, label, e) ((lookupChain_eq_some_iff ..).mpr hknown)
  · rintro h ⟨key, label, e⟩ hfound
    exact h key label e ((lookupChain_eq_some_iff ..).mp hfound)

/-! ### Links without a name -/

/-- A link with a nameless one in its chain is not plain. -/
theorem lookupChain_of_nameless (script : Table Entry) {source : List UInt8} {n l : Node}
    (hl : l ∈ n.chain) (h : accessedName? source l = none) : lookupChain script source n = none := by
  rw [lookupChain_eq_none_iff]
  rintro key label e ⟨root, names, hplain, -⟩
  exact accessedName?_ne_none hplain.named hl h

theorem chainFinding_of_lookupChain_none {script : Table Entry} {s : Source} {n o : Node}
    (hlink : n.isLink) (h : lookupChain script s.bytes n = none) (ho : n.child? .object = some o) :
    chainFinding script s n = chainFinding script s o := by
  rw [chainFinding_eq, chainFinding_eq, decisive?, Node.chain_of_isLink hlink, List.findSome?_cons, h,
    ho]
  rfl

/-- Nothing is found from a nameless link outwards. -/
theorem chainFinding_of_nameless (script : Table Entry) (s : Source) (n : Node) {l o : Node}
    (hl : l ∈ n.chain) (h : accessedName? s.bytes l = none) (ho : l.child? .object = some o) :
    chainFinding script s n = chainFinding script s o := by
  -- By induction along the chain: no link from `n` to `l` is plain, since `l` belongs to its chain.
  induction n using Node.chain.induct with
  | case1 n hlink ih =>
    have hnone := lookupChain_of_nameless script hl h
    rw [Node.chain_of_isLink hlink] at hl
    rcases List.mem_cons.mp hl with rfl | hl
    · exact chainFinding_of_lookupChain_none hlink hnone ho
    · cases hobject : n.child? .object with
      | none =>
        rw [hobject] at hl
        cases hl
      | some object =>
        rw [hobject] at hl
        rw [chainFinding_of_lookupChain_none hlink hnone hobject]
        exact ih object hobject hl
  | case2 n hlink =>
    rw [Node.chain_of_not_isLink hlink] at hl
    cases hl

/-! ### The finding of a chain -/

/-- **The longest known prefix decides.** Of the links of a chain, counted from the outside, the first
one that the table knows gives the finding: with its range and its key, or none if its feature is widely
available, whatever is known of the links further in. Where no link is known there is no finding. A link
without a name does not count, nor do those outside it. -/
theorem chainFinding_longest (script : Table Entry) (s : Source) (n : Node) :
    (∀ outer m inner, n.chain = outer ++ m :: inner →
      (∀ l ∈ outer, ∀ key label e, ¬ IsKnown script s.bytes l key label e) →
      ∀ key label e, IsKnown script s.bytes m key label e →
        chainFinding script s n =
          if e.isWidely then none
          else some ⟨s.range m, e.status, if e.name.isEmpty then label else e.name, key⟩) ∧
    ((∀ l ∈ n.chain, ∀ key label e, ¬ IsKnown script s.bytes l key label e) →
      chainFinding script s n = none) ∧
    ∀ l ∈ n.chain, accessedName? s.bytes l = none → ∀ o ∈ l.child? .object,
      chainFinding script s n = chainFinding script s o := by
  have hskip (l : Node) (h : ∀ key label e, ¬ IsKnown script s.bytes l key label e) :
      (lookupChain script s.bytes l).map (l, ·) = none := by
    rw [(lookupChain_eq_none_iff ..).mpr h]
    rfl
  refine ⟨?_, ?_, ?_⟩
  · intro outer m inner hchain houter key label e hknown
    have hdecisive : decisive? script s.bytes n = some (m, key, label, e) := by
      refine List.findSome?_eq_some_iff.mpr
        ⟨outer, m, inner, hchain, ?_, fun l hl => hskip l (houter l hl)⟩
      rw [(lookupChain_eq_some_iff ..).mpr hknown]
      rfl
    rw [chainFinding_eq, hdecisive]
    rfl
  · intro h
    have hdecisive : decisive? script s.bytes n = none :=
      List.findSome?_eq_none_iff.mpr fun l hl => hskip l (h l hl)
    rw [chainFinding_eq, hdecisive]
    rfl
  · intro l hl hname o ho
    exact chainFinding_of_nameless script s n hl hname ho

/-- The table knows the method by interface and the object as it is written. The method decides, although
a computed name and a property follow it; where it is widely available, its object is not looked at. -/
theorem chainFinding_longest_method :
    let text : Text := "navigator.clipboard['readText'][k].x"
    let name (kind : Kind) (role : Role) (start stop : Nat) : Node :=
      .mk (some role) kind false start stop []
    let clipboard : Node := .mk (some .object) .member false 0 19
      [name .identifier .object 0 9, name .propertyName .property 10 19]
    let method : Node := .mk (some .object) .subscript false 0 31
      [clipboard, .mk (some .index) .string false 20 30 [.mk none .fragment false 21 29 []]]
    let computed : Node :=
      .mk (some .object) .subscript false 0 34 [method, name .identifier .index 32 33]
    let n : Node := .mk none .member false 0 36 [computed, name .propertyName .property 35 36]
    let readText : Entry := { id := "read", name := [], status := .newly }
    let script : Table Entry := [("Navigator.clipboard.readText", readText),
      ("navigator.clipboard", { id := "clipboard", name := [], status := .limited })]
    let common : Table Entry :=
      ("navigator.clipboard.readText", { readText with status := .widely }) :: script
    let s := Source.ofText text
    n.chain = [n, computed] ++ method :: [clipboard] ∧
      (∀ l ∈ [n, computed], ∀ key label e, ¬ IsKnown script s.bytes l key label e) ∧
      IsKnown script s.bytes method "Navigator.clipboard.readText" "navigator.clipboard.readText"
        readText ∧
      chainFinding script s n = some ⟨Range.onLine 0 0 31, .newly, "navigator.clipboard.readText",
        "Navigator.clipboard.readText"⟩ ∧
      chainFinding script s n = chainFinding script s method ∧
      chainFinding common s n = none ∧
      chainFinding [] s n = none := by
  intro text name clipboard method computed n readText script common s
  have hchain : n.chain = [n, computed] ++ method :: [clipboard] := by decide +kernel
  have hunknown (table : Table Entry) : ∀ l ∈ [n, computed], ∀ key label e,
      ¬ IsKnown table s.bytes l key label e := by
    intro l hl
    refine (lookupChain_eq_none_iff ..).mp (lookupChain_of_nameless table (l := computed) ?_ ?_)
    · rcases List.mem_cons.mp hl with rfl | hl
      · decide +kernel
      · rw [List.mem_singleton.mp hl]
        decide +kernel
    · decide +kernel
  have hknown : IsKnown script s.bytes method "Navigator.clipboard.readText"
      "navigator.clipboard.readText" readText :=
    (lookupChain_eq_some_iff ..).mp (by decide +kernel)
  have hcommon : IsKnown common s.bytes method "navigator.clipboard.readText"
      "navigator.clipboard.readText" { readText with status := .widely } :=
    (lookupChain_eq_some_iff ..).mp (by decide +kernel)
  have hnone : ∀ l ∈ n.chain, ∀ key label e, ¬ IsKnown [] s.bytes l key label e := by
    rintro l - key label e ⟨root, names, -, -, hkey, -⟩
    cases hkey
  obtain ⟨hfirst, -, hnameless⟩ := chainFinding_longest script s n
  refine ⟨hchain, hunknown script, hknown, ?_, ?_, ?_, (chainFinding_longest [] s n).2.1 hnone⟩
  · rw [hfirst _ _ _ hchain (hunknown script) _ _ _ hknown]
    decide +kernel
  · exact hnameless computed (by decide +kernel) (by decide +kernel) method (by decide +kernel)
  · rw [(chainFinding_longest common s n).1 _ _ _ hchain (hunknown common) _ _ _ hcommon]
    rfl

end WebBaseline.Script
