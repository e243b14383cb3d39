import WebBaseline.Proofs.Script.Walk

/-! Member chains, link by link.

A chain is a link, its object if that is a link, and so on inwards (`Node.chain`). The table knows a
link by its path or by the path with a capital root (`exists_of_lookupChain`). The first link that it
knows decides the chain (`decisive?`), and the finding is made of that link alone (`chainFinding_eq`). -/
namespace WebBaseline.Script

/-- What the table knows of a link: the path starts at a global object, and the key is the path, or, if
the table has no such key, the path with a capital root. -/
theorem exists_of_lookupChain {script : Table Entry} {source : List UInt8} {n : Node}
    {key label : Text} {e : Entry} (h : lookupChain script source n = some (key, label, e)) :
    ∃ root names, path? source n = some (root :: names) ∧ names ≠ [] ∧ root ∈ globalRoots ∧
      label = Text.join "." (root :: names) ∧ script.get? key = some e ∧
      (key = label ∨
        script.get? label = none ∧ key = Text.join "." (capitalise root :: names)) := by
  unfold lookupChain at h
  split at h
  · rename_i root name names hpath
    split at h
    · rename_i hroot
      refine ⟨root, name :: names, hpath, List.cons_ne_nil name names,
        List.contains_iff_mem.mp hroot, ?_⟩
      simp only at h
      split at h
      · rename_i e' hwritten
        cases h
        exact ⟨rfl, hwritten, .inl rfl⟩
      · rename_i hnone
        obtain ⟨e', hcapital, heq⟩ := Option.map_eq_some_iff.mp h
        cases heq
        exact ⟨rfl, hcapital, .inr ⟨hnone, rfl⟩⟩
    · cases h
  · cases h

/-- The links of a chain from the outermost one inwards. -/
def Node.chain (n : Node) : List Node :=
  if n.isLink then
    n :: match _h : n.child? .object with
      | none => []
      | some object => object.chain
  else []
termination_by n.size
decreasing_by exact Node.size_lt_of_child? n _h

theorem Node.chain_of_isLink {n : Node} (h : n.isLink) :
    n.chain = n :: ((n.child? .object).map Node.chain).getD [] := by
  rw [Node.chain, if_pos h]
  split
  · rename_i hobject
    rw [hobject]
    rfl
  · rename_i object hobject
    rw [hobject]
    rfl

theorem Node.chain_of_not_isLink {n : Node} (h : ¬ n.isLink) : n.chain = [] := by
  rw [Node.chain, if_neg h]

/-- The link that decides a chain, with the key, the label and the entry that the table has for it. -/
def decisive? (script : Table Entry) (source : List UInt8) (n : Node) :
    Option (Node × Text × Text × Entry) :=
  n.chain.findSome? fun m => (lookupChain script source m).map (m, ·)

theorem chainFinding_eq (script : Table Entry) (s : Source) (n : Node) :
    chainFinding script s n = (decisive? script s.bytes n).bind fun (m, key, label, e) =>
      Finding.of? (some e) key (s.range m) label := by
  unfold decisive?
  fun_induction chainFinding script s n with
  | case1 n hlink key label e hlookup =>
    rw [Node.chain_of_isLink hlink, List.findSome?_cons, hlookup]
    rfl
  | case2 n hlink hlookup hobject =>
    rw [Node.chain_of_isLink hlink, List.findSome?_cons, hlookup, hobject]
    rfl
  | case3 n hlink hlookup object hobject ih =>
    rw [Node.chain_of_isLink hlink, List.findSome?_cons, hlookup, hobject, ih]
    rfl
  | case4 n hlink =>
    rw [Node.chain_of_not_isLink hlink]
    rfl

theorem mem_chain_of_decisive? {script : Table Entry} {source : List UInt8} {n m : Node}
    {key label : Text} {e : Entry} (h : decisive? script source n = some (m, key, label, e)) :
    m ∈ n.chain ∧ lookupChain script source m = some (key, label, e) := by
  obtain ⟨m', hmem, hm⟩ := List.exists_of_findSome?_eq_some h
  obtain ⟨found, hfound, heq⟩ := Option.map_eq_some_iff.mp hm
  cases heq
  exact ⟨hmem, hfound⟩

theorem lookupChain_of_decisive? {script : Table Entry} {source : List UInt8} {n m : Node}
    {key label : Text} {e : Entry} (h : decisive? script source n = some (m, key, label, e)) :
    lookupChain script source m = some (key, label, e) :=
  (mem_chain_of_decisive? h).2

theorem exists_of_chainFinding {script : Table Entry} {s : Source} {n : Node} {f : Finding}
    (h : chainFinding script s n = some f) :
    ∃ m key label e, decisive? script s.bytes n = some (m, key, label, e) ∧
      Finding.of? (some e) key (s.range m) label = some f := by
  rw [chainFinding_eq] at h
  obtain ⟨⟨m, key, label, e⟩, hdecisive, hf⟩ := Option.bind_eq_some_iff.mp h
  exact ⟨m, key, label, e, hdecisive, hf⟩

/-- The finding of a chain has the range and the key of the link that decides. -/
theorem decisive?_of_chainFinding {script : Table Entry} {s : Source} {n : Node} {f : Finding}
    (h : chainFinding script s n = some f) :
    ∃ m label e, decisive? script s.bytes n = some (m, f.key, label, e) ∧ f.range = s.range m := by
  obtain ⟨m, key, label, e, hdecisive, hf⟩ := exists_of_chainFinding h
  simp only [Finding.of?] at hf
  split at hf
  · cases hf
  · cases hf
    exact ⟨m, label, e, hdecisive, rfl⟩

end WebBaseline.Script
