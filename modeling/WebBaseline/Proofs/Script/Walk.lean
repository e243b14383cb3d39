import Mathlib.Data.List.Nodup
import Mathlib.Data.List.Pairwise
import WebBaseline.Script.Scan

/-! The walk over a syntax tree goes through it in preorder.

Read by recursion, a tree is a list of visits: its root, and then the trees of the children from left to
right, each node with its parent in hand (`Node.visits`). The scanner instead keeps a list of nodes that
are still to be walked, and tells the object of a link among the children by its stretch and kind. Where
siblings take up stretches of their own, this comparison finds the object itself and nothing else
(`marked_eq`), and the work list stands for all the visits below its nodes (`walk_visits`). -/
namespace WebBaseline.Script

/-! ### Visits -/

namespace Node

mutual

/-- Decides whether two nodes are the same. -/
def decEq : (m n : Node) → Decidable (m = n)
  | mk role kind isOpen start stop children, mk role' kind' isOpen' start' stop' children' =>
    have := decEqAmong children children'
    decidable_of_iff (role = role' ∧ kind = kind' ∧ isOpen = isOpen' ∧ start = start' ∧
      stop = stop' ∧ children = children') (by simp)

/-- Decides whether two lists of nodes are the same. -/
def decEqAmong : (l m : List Node) → Decidable (l = m)
  | [], [] => isTrue rfl
  | [], _ :: _ => isFalse nofun
  | _ :: _, [] => isFalse nofun
  | c :: rest, d :: others =>
    have := decEq c d
    have := decEqAmong rest others
    decidable_of_iff (c = d ∧ rest = others) (by simp)

end

instance : DecidableEq Node := decEq

end Node

/-- A node and the parent from which it is visited. The root of a tree is visited from none. -/
structure Visit where
  parent? : Option Node
  node : Node
deriving DecidableEq, Repr

namespace Node

mutual

/-- The visits of a tree: its root, and then what lies below. -/
def visitsFrom (parent? : Option Node) : Node → List Visit
  | mk role kind isOpen start stop children =>
    ⟨parent?, mk role kind isOpen start stop children⟩ ::
      visitsAmong (mk role kind isOpen start stop children) children

/-- The visits of the trees of several children, from left to right. -/
def visitsAmong (parent : Node) : List Node → List Visit
  | [] => []
  | c :: rest => visitsFrom (some parent) c ++ visitsAmong parent rest

end

/-- The visits of a whole tree in preorder. -/
def visits (root : Node) : List Visit :=
  root.visitsFrom none

theorem visitsAmong_eq (parent : Node) (children : List Node) :
    visitsAmong parent children = children.flatMap (visitsFrom (some parent)) := by
  induction children with
  | nil => rfl
  | cons c rest ih => rw [visitsAmong, ih, List.flatMap_cons]

mutual

/-- Every node of a tree is visited once. -/
theorem length_visitsFrom (parent? : Option Node) : ∀ n : Node,
    (n.visitsFrom parent?).length = n.size
  | mk .. => by rw [visitsFrom, List.length_cons, length_visitsAmong, size]

theorem length_visitsAmong (parent : Node) : ∀ children : List Node,
    (visitsAmong parent children).length = sizes children
  | [] => rfl
  | c :: rest => by
    rw [visitsAmong, List.length_append, length_visitsFrom, length_visitsAmong, sizes]

end

end Node

namespace Visit

/-- Whether the visited node is the object of the link it is visited from. -/
def IsObject (v : Visit) : Prop :=
  ∃ p ∈ v.parent?, p.isLink ∧ p.child? .object = some v.node

instance (v : Visit) : Decidable v.IsObject :=
  inferInstanceAs (Decidable (∃ p ∈ v.parent?, _))

/-- The finding at a visit: a link that is not the object of another one gives that of its chain, and a
construction gives its own. -/
def finding? (script : Table Entry) (s : Source) (v : Visit) : Option Finding :=
  if v.node.isLink ∧ ¬ v.IsObject then chainFinding script s v.node
  else if v.node.kind = .construct then constructFinding script s v.node
  else none

/-- The visits that follow from a visit: those of the children. -/
def next (v : Visit) : List Visit :=
  v.node.children.map fun c => ⟨some v.node, c⟩

/-- A visit and all visits of nodes below. -/
def below (v : Visit) : List Visit :=
  v.node.visitsFrom v.parent?

theorem below_eq (v : Visit) : v.below = v :: v.next.flatMap below := by
  obtain ⟨parent?, n⟩ := v
  cases n with
  | mk role kind isOpen start stop children =>
    rw [below, Node.visitsFrom, Node.visitsAmong_eq, next, List.flatMap_map]
    rfl

/-- Of several visits that are to be made, the first one makes room for those that follow from it. -/
theorem flatMap_below_cons (v : Visit) (later : List Visit) :
    (v :: later).flatMap below = v :: (v.next ++ later).flatMap below := by
  rw [List.flatMap_cons, below_eq v, List.flatMap_append, List.cons_append]

@[simp]
theorem isObject_child {n c : Node} :
    IsObject ⟨some n, c⟩ ↔ n.isLink ∧ n.child? .object = some c := by
  simp [IsObject]

theorem nodeFinding_eq (script : Table Entry) (s : Source) (v : Visit) :
    nodeFinding script s v.node v.IsObject = v.finding? script s := by
  unfold nodeFinding finding?
  by_cases hlink : v.node.isLink
  · have hkind : v.node.kind ≠ .construct := by
      intro hkind
      simp [Node.isLink, hkind] at hlink
    by_cases hobject : v.IsObject
    · simp [hlink, hobject, hkind]
    · simp [hlink, hobject]
  · simp [hlink]

end Visit

/-! ### Telling the object by its stretch -/

namespace Node

/-- Whether two nodes take up stretches without a byte in common. -/
def Apart (c d : Node) : Prop :=
  c.stop ≤ d.start ∨ d.stop ≤ c.start

instance : Std.Symm Apart := ⟨fun _ _ => Or.symm⟩

instance (c d : Node) : Decidable (Apart c d) :=
  inferInstanceAs (Decidable (_ ∨ _))

/-- A node whose children take up stretches of their own, none of them empty. The object of a link is
one of the children, as in every tree that is read from a script: an open child lends it none. -/
structure Regular (n : Node) : Prop where
  nonempty : ∀ c ∈ n.children, c.start < c.stop
  apart : n.children.Pairwise Apart
  object_mem : n.isLink → ∀ o ∈ n.child? .object, o ∈ n.children

instance (n : Node) : Decidable n.Regular :=
  decidable_of_iff (_ ∧ _ ∧ _) ⟨fun ⟨h, h', h''⟩ => ⟨h, h', h''⟩, fun ⟨h, h', h''⟩ => ⟨h, h', h''⟩⟩

namespace Regular

/-- Children with the same stretch are one child. -/
theorem eq_of_sameAs {n c d : Node} (h : n.Regular) (hc : c ∈ n.children) (hd : d ∈ n.children)
    (hsame : c.sameAs d) : c = d := by
  have hstretch : c.start = d.start ∧ c.stop = d.stop := by
    simp only [sameAs, Bool.and_eq_true, decide_eq_true_eq] at hsame
    exact hsame.1
  have hne := h.nonempty c hc
  by_contra hdiff
  have hapart : c.stop ≤ d.start ∨ d.stop ≤ c.start := h.apart.forall hc hd hdiff
  omega

theorem nodup {n : Node} (h : n.Regular) : n.children.Nodup := by
  refine h.apart.imp_of_mem fun {c d} hc _ hapart => ?_
  rintro rfl
  have hne := h.nonempty c hc
  have hself : c.stop ≤ c.start ∨ c.stop ≤ c.start := hapart
  omega

/-- The comparison with the object of a link finds the object. -/
theorem sameAs_object {n o c : Node} (h : n.Regular) (hlink : n.isLink)
    (ho : n.child? .object = some o) (hc : c ∈ n.children) : c.sameAs o = decide (o = c) := by
  by_cases heq : o = c
  · subst heq
    simp [sameAs]
  · rw [decide_eq_false heq, Bool.eq_false_iff]
    exact fun hsame => heq (h.eq_of_sameAs hc (h.object_mem hlink o ho) hsame).symm

end Regular

end Node

/-- The work at a visit that is still to be made. -/
def Visit.work (v : Visit) : Node × Bool :=
  (v.node, v.IsObject)

/-- A regular node hands on the visits of its children. -/
theorem marked_eq {v : Visit} (h : v.node.Regular) : marked v.node = v.next.map Visit.work := by
  rw [Visit.next, List.map_map]
  refine List.map_congr_left fun c hc => ?_
  by_cases hlink : v.node.isLink
  · cases ho : v.node.child? .object with
    | none => simp [Visit.work, hlink, ho]
    | some o => simp [Visit.work, hlink, ho, h.sameAs_object hlink ho hc]
  · simp [Visit.work, hlink]

/-- Of the children of a link that has an object, exactly one is marked. -/
theorem filter_marked {n o : Node} (h : n.Regular) (hlink : n.isLink)
    (ho : n.child? .object = some o) : (marked n).filter (·.2) = [(o, true)] := by
  have hcount : n.children.count o = 1 :=
    List.count_eq_one_of_mem h.nodup (h.object_mem hlink o ho)
  have hfilter : (n.children.filter fun c => decide (o = c)) = [o] := by
    simp only [eq_comm (a := o)]
    rw [List.filter_eq, hcount, List.replicate_one]
  calc (marked n).filter (·.2)
      = (n.children.map fun c => (c, decide (o = c))).filter (·.2) := by
        rw [marked_eq (v := ⟨none, n⟩) h, Visit.next, List.map_map]
        simp [Visit.work, Function.comp_def, hlink, ho]
    _ = [(o, true)] := by
        rw [List.filter_map, Function.comp_def, hfilter]
        simp

/-! ### The work list -/

/-- The work of several visits gives the findings of all visits below them. -/
theorem walk_visits (script : Table Entry) (s : Source) (work : List (Node × Bool)) :
    ∀ vs : List Visit, work = vs.map Visit.work →
      (∀ v ∈ vs.flatMap Visit.below, v.node.Regular) →
      walk script s work = (vs.flatMap Visit.below).filterMap (Visit.finding? script s) := by
  -- One step of the walk puts the visits of the children in the place of that of their parent.
  fun_induction walk script s work with
  | case1 =>
    intro vs hvs _
    rw [List.map_eq_nil_iff.mp hvs.symm]
    rfl
  | case2 n inner rest ih =>
    intro vs hvs hregular
    obtain ⟨v, later, rfl, hv, rfl⟩ := List.map_eq_cons_iff.mp hvs.symm
    cases hv
    rw [Visit.flatMap_below_cons] at hregular ⊢
    obtain ⟨hv, hlater⟩ := List.forall_mem_cons.mp hregular
    rw [ih (v.next ++ later) (by rw [List.map_append, marked_eq hv]) hlater, List.filterMap_cons,
      Visit.nodeFinding_eq]
    cases v.finding? script s <;> rfl

/-- Whatever the marks are, a finding comes from a visit of the tree. -/
theorem exists_visit_of_mem_walk {script : Table Entry} {s : Source} {f : Finding}
    (work : List (Node × Bool)) :
    ∀ vs : List Visit, work.map (·.1) = vs.map (·.node) → f ∈ walk script s work →
      ∃ v ∈ vs.flatMap Visit.below, ∃ inner, nodeFinding script s v.node inner = some f := by
  fun_induction walk script s work with
  | case1 =>
    intro _ _ hf
    cases hf
  | case2 n inner rest ih =>
    intro vs hvs hf
    rw [List.map_cons] at hvs
    obtain ⟨v, later, rfl, rfl, hlater⟩ := List.map_eq_cons_iff.mp hvs.symm
    rw [Visit.flatMap_below_cons]
    rcases List.mem_append.mp hf with hf | hf
    · exact ⟨v, List.mem_cons_self .., inner, Option.mem_toList.mp hf⟩
    · have hnext : (marked v.node).map (·.1) = v.next.map (·.node) := by
        simp [marked, Visit.next, Function.comp_def]
      obtain ⟨w, hw, hfinding⟩ :=
        ih (v.next ++ later) (by rw [List.map_append, List.map_append, hnext, hlater]) hf
      exact ⟨w, List.mem_cons_of_mem v hw, hfinding⟩

theorem visits_eq (root : Node) : root.visits = [(⟨none, root⟩ : Visit)].flatMap Visit.below := by
  rw [List.flatMap_singleton]
  rfl

/-- A finding at a node is that of a chain or that of a construction. -/
theorem cases_of_nodeFinding {script : Table Entry} {s : Source} {n : Node} {inner : Bool}
    {f : Finding} (h : nodeFinding script s n inner = some f) :
    n.isLink ∧ chainFinding script s n = some f ∨
      n.kind = .construct ∧ constructFinding script s n = some f := by
  unfold nodeFinding at h
  split at h
  · rename_i hlink
    split at h
    · cases h
    · exact .inl ⟨hlink, h⟩
  · split at h
    · rename_i hkind
      exact .inr ⟨hkind, h⟩
    · cases h

theorem exists_visit_of_mem_scanTree {s : Source} {index : Index} {root : Node} {f : Finding}
    (h : f ∈ scanTree s index root) :
    ∃ v ∈ root.visits, v.node.isLink ∧ chainFinding index.script s v.node = some f ∨
      v.node.kind = .construct ∧ constructFinding index.script s v.node = some f := by
  obtain ⟨v, hv, inner, hf⟩ := exists_visit_of_mem_walk _ [⟨none, root⟩] rfl h
  rw [← visits_eq] at hv
  exact ⟨v, hv, cases_of_nodeFinding hf⟩

/-- **The walk is the recursive one.** Where the siblings take up stretches of their own, a scan gives
the findings of the visits in preorder. Every node is visited once, and of the children of a link
exactly the object is passed over. -/
theorem scanTree_eq_visits (s : Source) (index : Index) (root : Node)
    (h : ∀ v ∈ root.visits, v.node.Regular) :
    scanTree s index root = root.visits.filterMap (Visit.finding? index.script s) ∧
    root.visits.length = root.size ∧
    ∀ v ∈ root.visits, v.node.isLink → ∀ o ∈ v.node.child? .object,
      (marked v.node).filter (·.2) = [(o, true)] := by
  have hwork : [(root, false)] = [(⟨none, root⟩ : Visit)].map Visit.work := by
    simp [Visit.work, Visit.IsObject]
  refine ⟨?_, root.length_visitsFrom none, fun v hv hlink o ho => filter_marked (h v hv) hlink ho⟩
  rw [visits_eq] at h ⊢
  exact walk_visits index.script s _ _ hwork h

/-- Chains in an index, in a call, in a construction and in an argument are found once each, and the
object of the outer link is not found a second time. -/
theorem scanTree_eq_visits_nested :
    let text : Text := "window.name[navigator.share(new Foo(document.title))]"
    let name (role : Role) (start stop : Nat) : Node := .mk (some role) .identifier false start stop []
    let member (role : Option Role) (start dot stop : Nat) : Node :=
      .mk role .member false start stop
        [name .object start dot, .mk (some .property) .propertyName false (dot + 1) stop []]
    let construct : Node := .mk none .construct false 28 51
      [name .constructor 32 35, .mk none .other false 35 51 [member none 36 44 50]]
    let call : Node := .mk (some .index) .other false 12 52
      [member none 12 21 27, .mk none .other false 27 52 [construct]]
    let root : Node := .mk none .subscript false 0 53 [member (some .object) 0 6 11, call]
    let entry : Entry := { id := "id", name := [], status := .newly }
    let index : Index := { script := [("window.name", entry), ("navigator.share", entry),
      ("Foo", entry), ("document.title", entry)] }
    let s := Source.ofText text
    scanTree s index root = root.visits.filterMap (Visit.finding? index.script s) ∧
      (marked root).filter (·.2) = [(member (some .object) 0 6 11, true)] ∧
      root.visits.length = 15 ∧
      (scanTree s index root).map (·.range) =
        [Range.onLine 0 0 11, Range.onLine 0 12 27, Range.onLine 0 28 51, Range.onLine 0 36 50] := by
  intro text name member construct call root entry index s
  have hroot : (⟨none, root⟩ : Visit) ∈ root.visits := by decide +kernel
  obtain ⟨hscan, hlength, hmarked⟩ := scanTree_eq_visits s index root (by decide +kernel)
  exact ⟨hscan, hmarked _ hroot (by decide) _ (by decide +kernel), hlength.trans (by decide +kernel),
    by decide +kernel⟩

end WebBaseline.Script
