import WebBaseline.Proofs.Script.Prefix
import WebBaseline.Proofs.Script.Range
import WebBaseline.Proofs.Script.Walk
import WebBaseline.Proofs.Text.Pieces

/-! What a key says about its chain.

A key is a path, so cut at its dots it should be the global object and the names that the links are
written with (`NamesPath`). It is so exactly if every link is looked up by the name that it is written
with, and that name has no dot (`IsNamed`, `namesPath_iff`). A string without escapes is looked up by all
its text; one with an escape is looked up without it (`accessedName?_eq_iff`). -/
namespace WebBaseline.Script

open Text.Utf8 (IsBoundary)

/-! ### Written names -/

/-- The child that plays a role in the node itself, and is not lent by an open child. -/
def Node.own? (n : Node) (r : Role) : Option Node :=
  n.children.find? (·.role = some r)

/-- The text of the source between two byte offsets. -/
def textBetween (source : List UInt8) (start stop : Nat) : Text :=
  Text.Utf8.decodeLossy ((source.drop start).take (stop - start))

/-- The name that a link is written with: the property behind its dot, or all that stands between the
quotes of the string in its brackets. -/
def writtenName? (source : List UInt8) (n : Node) : Option Text :=
  if n.kind = .member then (n.own? .property).map (·.text source)
  else (n.own? .index).map fun i => textBetween source (i.start + 1) (i.stop - 1)

/-- A link that is looked up by the name that it is written with, where that name has no dot. -/
structure IsNamed (source : List UInt8) (n : Node) : Prop where
  written : accessedName? source n = writtenName? source n
  undotted : ∀ name ∈ accessedName? source n, '.' ∉ name

instance (source : List UInt8) (n : Node) : Decidable (IsNamed source n) :=
  decidable_of_iff (_ ∧ _) ⟨fun ⟨h, h'⟩ => ⟨h, h'⟩, fun ⟨h, h'⟩ => ⟨h, h'⟩⟩

/-- Whether a key names what a chain accesses: cut at its dots, it is the global object, maybe with a
capital, and the written names of the links from the innermost one outwards. -/
def NamesPath (source : List UInt8) (key : Text) (n : Node) : Prop :=
  ∃ o ∈ n.base?, ∃ head, (head = o.text source ∨ head = capitalise (o.text source)) ∧
    (Text.splitOn '.' key).map some = some head :: n.chain.reverse.map (writtenName? source)

/-! ### Keys and paths -/

theorem undotted_root {root : Text} (h : root ∈ globalRoots) :
    '.' ∉ root ∧ '.' ∉ capitalise root := by
  have hall : ∀ root ∈ globalRoots, '.' ∉ root ∧ '.' ∉ capitalise root := by decide +kernel
  exact hall root h

/-- The global object of a key is known with and without its capital. -/
theorem asciiLower_head {root head : Text} (h : root ∈ globalRoots)
    (hhead : head = root ∨ head = capitalise root) : Text.asciiLower head = root := by
  have hall : ∀ root ∈ globalRoots, Text.asciiLower root = root ∧
      Text.asciiLower (capitalise root) = root := by decide +kernel
  rcases hhead with rfl | rfl
  · exact (hall head h).1
  · exact (hall root h).2

/-- Cut at its dots, a key is the global object and all pieces of the names. -/
theorem splitOn_of_isKnown {script : Table Entry} {source : List UInt8} {n : Node} {key label : Text}
    {e : Entry} (h : IsKnown script source n key label e) :
    ∃ root names head, IsPlain source n root names ∧ (head = root ∨ head = capitalise root) ∧
      Text.splitOn '.' key = head :: names.flatMap (Text.splitOn '.') := by
  obtain ⟨root, names, hplain, hlabel, -, hkey⟩ := h
  obtain ⟨hroot, hcapital⟩ := undotted_root hplain.isGlobal
  have hsplit (head : Text) (hfree : '.' ∉ head) : Text.splitOn '.' (Text.join "." (head :: names)) =
      head :: names.flatMap (Text.splitOn '.') := by
    have hjoin := Text.splitOn_join '.' head names
    rwa [List.flatMap_cons, Text.splitOn_eq_singleton_iff.mpr hfree, List.singleton_append] at hjoin
  rcases hkey with rfl | ⟨-, rfl⟩
  · exact ⟨root, names, root, hplain, .inl rfl, hlabel ▸ hsplit root hroot⟩
  · exact ⟨root, names, capitalise root, hplain, .inr rfl, hsplit _ hcapital⟩

theorem IsPlain.length_names {source : List UInt8} {n : Node} {root : Text} {names : List Text}
    (h : IsPlain source n root names) : names.length = n.chain.length := by
  have hlength := congrArg List.length h.named
  rw [List.length_map, List.length_map, List.length_reverse] at hlength
  exact hlength.symm

/-- Where all links of a chain are named, their names are the written ones and have no dots. -/
theorem IsPlain.written {source : List UInt8} {n : Node} {root : Text} {names : List Text}
    (h : IsPlain source n root names) (hnamed : ∀ l ∈ n.chain, IsNamed source l) :
    n.chain.reverse.map (writtenName? source) = names.map some ∧ ∀ name ∈ names, '.' ∉ name := by
  constructor
  · rw [← h.named]
    exact List.map_congr_left fun l hl => (hnamed l (List.mem_reverse.mp hl)).written.symm
  · intro name hname
    have hmem := List.mem_map_of_mem (f := some) hname
    rw [← h.named] at hmem
    obtain ⟨l, hl, haccess⟩ := List.mem_map.mp hmem
    exact (hnamed l (List.mem_reverse.mp hl)).undotted name haccess

/-- The key of a known link names its path just if all links of its chain are named. -/
theorem namesPath_iff {script : Table Entry} {source : List UInt8} {n : Node} {key label : Text}
    {e : Entry} (h : IsKnown script source n key label e) :
    NamesPath source key n ↔ ∀ l ∈ n.chain, IsNamed source l := by
  obtain ⟨root, names, head, hplain, hhead, hsplit⟩ := splitOn_of_isKnown h
  obtain ⟨o, ho, -, hroot⟩ := hplain.rooted
  constructor
  · rintro ⟨o', ho', head', -, hnames⟩
    rw [hsplit, List.map_cons] at hnames
    have hwritten := (List.cons.inj hnames).2
    -- There are as many pieces as links, so no name came apart.
    have hlength : (names.flatMap (Text.splitOn '.')).length = names.length := by
      have hcount := congrArg List.length hwritten
      rwa [List.length_map, List.length_map, List.length_reverse, ← hplain.length_names] at hcount
    have hfree := (Text.length_flatMap_splitOn names).2 hlength
    rw [Text.flatMap_splitOn hfree, ← hplain.named] at hwritten
    intro l hl
    refine ⟨List.map_inj_left.mp hwritten l (List.mem_reverse.mpr hl), fun name hname => ?_⟩
    have hmem := List.mem_map_of_mem (f := accessedName? source) (List.mem_reverse.mpr hl)
    rw [hplain.named, Option.mem_def.mp hname] at hmem
    obtain ⟨name', hname', hsame⟩ := List.mem_map.mp hmem
    cases hsame
    exact hfree name hname'
  · intro hnamed
    obtain ⟨hwritten, hfree⟩ := hplain.written hnamed
    refine ⟨o, ho, head, hroot ▸ hhead, ?_⟩
    rw [hsplit, Text.flatMap_splitOn hfree, hwritten, List.map_cons]

/-- Two named chains under one key access the same path. -/
theorem path_eq_of_key_eq {script : Table Entry} {source : List UInt8} {m n : Node}
    {key label label' : Text} {e e' : Entry} (hm : IsKnown script source m key label e)
    (hn : IsKnown script source n key label' e') (hmnamed : ∀ l ∈ m.chain, IsNamed source l)
    (hnnamed : ∀ l ∈ n.chain, IsNamed source l) :
    m.base?.map (·.text source) = n.base?.map (·.text source) ∧
      m.chain.reverse.map (writtenName? source) = n.chain.reverse.map (writtenName? source) := by
  obtain ⟨root, names, head, hplain, hhead, hsplit⟩ := splitOn_of_isKnown hm
  obtain ⟨root', names', head', hplain', hhead', hsplit'⟩ := splitOn_of_isKnown hn
  obtain ⟨hwritten, hfree⟩ := hplain.written hmnamed
  obtain ⟨hwritten', hfree'⟩ := hplain'.written hnnamed
  obtain ⟨o, ho, -, rfl⟩ := hplain.rooted
  obtain ⟨o', ho', -, rfl⟩ := hplain'.rooted
  rw [hsplit, Text.flatMap_splitOn hfree, Text.flatMap_splitOn hfree'] at hsplit'
  obtain ⟨hheads, hnames⟩ := List.cons.inj hsplit'
  have hroots : o.text source = o'.text source := by
    rw [← asciiLower_head hplain.isGlobal hhead, hheads, asciiLower_head hplain'.isGlobal hhead']
  rw [Option.mem_def.mp ho, Option.mem_def.mp ho', hwritten, hwritten', hnames]
  exact ⟨congrArg some hroots, rfl⟩

/-! ### Strings -/

/-- Whether nodes stand one behind the other between two offsets, with whole characters each. -/
def Strewn (text : Text) (start stop : Nat) : List Node → Prop
  | [] => start ≤ stop
  | c :: rest => start ≤ c.start ∧ c.start ≤ c.stop ∧ IsBoundary text c.start ∧
      IsBoundary text c.stop ∧ Strewn text c.stop stop rest

/-- Whether nodes follow each other from one offset to another without a gap. -/
def Tiled (start stop : Nat) : List Node → Prop
  | [] => start = stop
  | c :: rest => c.start = start ∧ Tiled c.stop stop rest

/-- The fragments of a string. -/
def Node.fragments (i : Node) : List Node :=
  i.children.filter (·.kind = .fragment)

/-- A string literal of a source: its quotes take one byte each, and its fragments stand between them. -/
structure Node.IsLiteral (text : Text) (i : Node) : Prop where
  isString : i.kind = .string
  start : IsBoundary text (i.start + 1)
  stop : IsBoundary text (i.stop - 1)
  strewn : Strewn text (i.start + 1) (i.stop - 1) i.fragments

theorem Strewn.le {text : Text} {start stop : Nat} {nodes : List Node}
    (h : Strewn text start stop nodes) : start ≤ stop := by
  induction nodes generalizing start with
  | nil => exact h
  | cons c rest ih =>
    obtain ⟨hstart, hc, -, -, hrest⟩ := h
    exact Nat.le_trans hstart (Nat.le_trans hc (ih hrest))

/-- Between boundaries, the text is the one that the bytes encode. -/
theorem encode_textBetween {text : Text} {start stop : Nat} (hstart : IsBoundary text start)
    (hstop : IsBoundary text stop) (h : start ≤ stop) :
    ((Source.ofText text).bytes.drop start).take (stop - start) =
        Text.Utf8.encode (textBetween (Source.ofText text).bytes start stop) ∧
      start + (Text.Utf8.encode (textBetween (Source.ofText text).bytes start stop)).length =
        stop := by
  obtain ⟨a, b, hab, -, rfl, rfl, hbytes⟩ := Text.Utf8.exists_slice hstart hstop h
  have htext : textBetween (Source.ofText text).bytes (Text.Utf8.byteOffset text a)
      (Text.Utf8.byteOffset text b) = text.slice a b := by
    rw [textBetween, Source.ofText, hbytes, Text.Utf8.decodeLossy_encode]
  rw [htext]
  exact ⟨hbytes, (Text.Utf8.byteOffset_slice hab).symm⟩

theorem textBetween_append {text : Text} {start middle stop : Nat} (hstart : IsBoundary text start)
    (hmiddle : IsBoundary text middle) (hstop : IsBoundary text stop) (h : start ≤ middle)
    (h' : middle ≤ stop) :
    textBetween (Source.ofText text).bytes start middle ++
      textBetween (Source.ofText text).bytes middle stop =
        textBetween (Source.ofText text).bytes start stop := by
  have hbytes : ((Source.ofText text).bytes.drop start).take (stop - start) =
      ((Source.ofText text).bytes.drop start).take (middle - start) ++
        ((Source.ofText text).bytes.drop middle).take (stop - middle) := by
    obtain ⟨k, rfl⟩ := Nat.exists_eq_add_of_le h
    obtain ⟨l, rfl⟩ := Nat.exists_eq_add_of_le h'
    rw [Nat.add_assoc, Nat.add_sub_cancel_left, Nat.add_sub_cancel_left, ← Nat.add_assoc,
      Nat.add_sub_cancel_left, List.take_add, List.drop_drop]
  rw [(encode_textBetween hstart hmiddle h).1, (encode_textBetween hmiddle hstop h').1,
    ← Text.Utf8.encode_append] at hbytes
  exact (Text.Utf8.decodeLossy_encode _).symm.trans (congrArg Text.Utf8.decodeLossy hbytes.symm)

/-- Fragments have at most the bytes between the offsets, and all of them only without a gap. -/
theorem length_encode_fragments {text : Text} {start stop : Nat} {nodes : List Node}
    (h : Strewn text start stop nodes) :
    let read := nodes.flatMap (·.text (Source.ofText text).bytes)
    start + (Text.Utf8.encode read).length ≤ stop ∧
      (start + (Text.Utf8.encode read).length = stop → Tiled start stop nodes) := by
  induction nodes generalizing start with
  | nil => exact ⟨h, id⟩
  | cons c rest ih =>
    obtain ⟨hstart, hc, hfront, hbehind, hrest⟩ := h
    have hread : c.start + (Text.Utf8.encode (c.text (Source.ofText text).bytes)).length = c.stop :=
      (encode_textBetween hfront hbehind hc).2
    obtain ⟨hle, heq⟩ := ih hrest
    simp only [List.flatMap_cons, Text.Utf8.encode_append, List.length_append]
    exact ⟨by omega, fun h => ⟨by omega, heq (by omega)⟩⟩

/-- Fragments give all the text between two offsets just if they leave no gap. -/
theorem flatMap_text_eq_iff {text : Text} {start stop : Nat} {nodes : List Node}
    (hstart : IsBoundary text start) (hstop : IsBoundary text stop)
    (h : Strewn text start stop nodes) :
    nodes.flatMap (·.text (Source.ofText text).bytes) =
      textBetween (Source.ofText text).bytes start stop ↔ Tiled start stop nodes := by
  constructor
  · intro heq
    have hle := Strewn.le h
    refine (length_encode_fragments h).2 ?_
    rw [heq]
    exact (encode_textBetween hstart hstop hle).2
  · intro htiled
    induction nodes generalizing start with
    | nil =>
      obtain rfl : start = stop := htiled
      rw [textBetween, Nat.sub_self, List.take_zero]
      rfl
    | cons c rest ih =>
      obtain ⟨-, hc, -, hbehind, hrest⟩ := h
      obtain ⟨rfl, htiled⟩ := htiled
      rw [List.flatMap_cons, ih hbehind hrest htiled]
      exact textBetween_append hstart hbehind hstop hc hrest.le

/-- A string literal in the brackets of a link is looked up by all its text just if it has some and its
fragments leave no gap, as an escape does. -/
theorem accessedName?_eq_iff {text : Text} {n i : Node} (hn : n.kind = .subscript)
    (hi : n.child? .index = some i) (hown : n.own? .index = some i) (h : i.IsLiteral text) :
    accessedName? (Source.ofText text).bytes n = writtenName? (Source.ofText text).bytes n ↔
      i.start + 1 < i.stop - 1 ∧ Tiled (i.start + 1) (i.stop - 1) i.fragments := by
  have hmember : n.kind ≠ .member := by simp [hn]
  rw [← flatMap_text_eq_iff h.start h.stop h.strewn, accessedName?, writtenName?, if_neg hmember,
    if_neg hmember, hi, hown]
  simp only [h.isString, if_true, Option.map_some]
  have hsize := (encode_textBetween h.start h.stop h.strewn.le).2
  generalize textBetween _ _ _ = whole at hsize ⊢
  change (if (i.fragments.flatMap _).isEmpty then none else some (i.fragments.flatMap _)) =
    some whole ↔ _
  constructor
  · intro heq
    split at heq
    · cases heq
    · rename_i hne
      obtain rfl := Option.some.inj heq
      have hpos := List.length_pos_iff.mpr (mt List.isEmpty_iff.mpr hne)
      have hbytes := Text.Utf8.length_le_length_encode
        (i.fragments.flatMap (·.text (Source.ofText text).bytes))
      exact ⟨by omega, rfl⟩
  · rintro ⟨hlt, rfl⟩
    rw [if_neg]
    intro hempty
    rw [List.isEmpty_iff.mp hempty] at hsize
    have hnone : (Text.Utf8.encode []).length = 0 := rfl
    omega

/-- **What a key tells.** Each finding of a chain has the key of a known link in it. Cut at its dots, the
key of a known link is the global object and the written names of the links if, and only if, every link
of its chain is looked up by the name that it is written with and that name has no dot; and where this
is so of two chains under one key, they access the same path. A string is looked up by all its text
unless it is empty or has an escape, for which its fragments leave a gap. -/
theorem key_names_path (text : Text) (index : Index) (tree : Node) :
    let s := Source.ofText text
    (∀ f ∈ scanTree s index tree, ∃ v ∈ tree.visits,
      v.node.kind = .construct ∧ constructFinding index.script s v.node = some f ∨
      v.node.isLink ∧ chainFinding index.script s v.node = some f ∧
        ∃ m ∈ v.node.chain, f.range = s.range m ∧
          ∃ label e, IsKnown index.script s.bytes m f.key label e) ∧
    (∀ m key label e, IsKnown index.script s.bytes m key label e →
      (NamesPath s.bytes key m ↔ ∀ l ∈ m.chain, IsNamed s.bytes l)) ∧
    (∀ m n key label label' e e', IsKnown index.script s.bytes m key label e →
      IsKnown index.script s.bytes n key label' e' → (∀ l ∈ m.chain, IsNamed s.bytes l) →
      (∀ l ∈ n.chain, IsNamed s.bytes l) →
      m.base?.map (·.text s.bytes) = n.base?.map (·.text s.bytes) ∧
        m.chain.reverse.map (writtenName? s.bytes) = n.chain.reverse.map (writtenName? s.bytes)) ∧
    ∀ n i : Node, n.kind = .subscript → n.child? .index = some i → n.own? .index = some i →
      i.IsLiteral text →
      (accessedName? s.bytes n = writtenName? s.bytes n ↔
        i.start + 1 < i.stop - 1 ∧ Tiled (i.start + 1) (i.stop - 1) i.fragments) := by
  intro s
  refine ⟨fun f hf => ?_, fun _ _ _ _ => namesPath_iff, fun _ _ _ _ _ _ _ => path_eq_of_key_eq,
    fun _ _ => accessedName?_eq_iff⟩
  obtain ⟨v, hv, ⟨hlink, hchain⟩ | hconstruct⟩ := exists_visit_of_mem_scanTree hf
  · obtain ⟨m, label, e, hdecisive, hrange⟩ := decisive?_of_chainFinding hchain
    obtain ⟨hm, hlookup⟩ := mem_chain_of_decisive? hdecisive
    exact ⟨v, hv, .inr ⟨hlink, hchain, m, hm, hrange, label, e, (lookupChain_eq_some_iff ..).mp hlookup⟩⟩
  · exact ⟨v, hv, .inl hconstruct⟩

/-- A wide character in a string and in a property. Both chains are found under the same key. -/
theorem key_names_path_literal :
    let text : Text := "navigator['é'].x,navigator.é['x']"
    let name (kind : Kind) (role : Role) (start stop : Nat) : Node :=
      .mk (some role) kind false start stop []
    let i : Node := .mk (some .index) .string false 10 14 [.mk none .fragment false 11 13 []]
    let link : Node := .mk (some .object) .subscript false 0 15 [name .identifier .object 0 9, i]
    let m : Node := .mk none .member false 0 17 [link, name .propertyName .property 16 17]
    let n : Node := .mk none .subscript false 18 35 [
      .mk (some .object) .member false 18 30
        [name .identifier .object 18 27, name .propertyName .property 28 30],
      .mk (some .index) .string false 31 34 [.mk none .fragment false 32 33 []]]
    let tree : Node := .mk none .other false 0 35 [m, n]
    let entry : Entry := { id := "id", name := [], status := .newly }
    let index : Index := { script := [("Navigator.é.x", entry)] }
    let s := Source.ofText text
    let f : Finding := ⟨Range.onLine 0 0 16, .newly, "navigator.é.x", "Navigator.é.x"⟩
    i.IsLiteral text ∧ (i.start + 1 < i.stop - 1 ∧ Tiled (i.start + 1) (i.stop - 1) i.fragments) ∧
      accessedName? s.bytes link = writtenName? s.bytes link ∧
      scanTree s index tree = [f, { f with range := Range.onLine 0 17 33 }] ∧
      (∃ v ∈ tree.visits, v.node.kind = .construct ∧ constructFinding index.script s v.node = some f ∨
        v.node.isLink ∧ chainFinding index.script s v.node = some f ∧
          ∃ m ∈ v.node.chain, f.range = s.range m ∧
            ∃ label e, IsKnown index.script s.bytes m f.key label e) ∧
      IsKnown index.script s.bytes m f.key f.label entry ∧
      IsKnown index.script s.bytes n f.key f.label entry ∧
      (∀ l ∈ m.chain, IsNamed s.bytes l) ∧ (∀ l ∈ n.chain, IsNamed s.bytes l) ∧
      NamesPath s.bytes f.key m ∧
      m.base?.map (·.text s.bytes) = n.base?.map (·.text s.bytes) ∧
      m.chain.reverse.map (writtenName? s.bytes) = n.chain.reverse.map (writtenName? s.bytes) := by
  intro text name i link m n tree entry index s f
  obtain ⟨hfindings, hnames, hpaths, hstrings⟩ := key_names_path text index tree
  have hstart : IsBoundary text 11 := ⟨11, by decide +kernel, by decide +kernel⟩
  have hstop : IsBoundary text 13 := ⟨12, by decide +kernel, by decide +kernel⟩
  have hliteral : i.IsLiteral text :=
    ⟨rfl, hstart, hstop, Nat.le_refl _, by decide, hstart, hstop, Nat.le_refl _⟩
  have htiled : i.start + 1 < i.stop - 1 ∧ Tiled (i.start + 1) (i.stop - 1) i.fragments :=
    ⟨by decide, rfl, rfl⟩
  have hstring := hstrings link i rfl (by decide +kernel) (by decide +kernel) hliteral
  have hscan : scanTree s index tree = [f, { f with range := Range.onLine 0 17 33 }] := by
    decide +kernel
  have hf : f ∈ scanTree s index tree := hscan ▸ List.mem_cons_self ..
  have hm : IsKnown index.script s.bytes m f.key f.label entry :=
    (lookupChain_eq_some_iff ..).mp (by decide +kernel)
  have hn : IsKnown index.script s.bytes n f.key f.label entry :=
    (lookupChain_eq_some_iff ..).mp (by decide +kernel)
  have hmnamed : ∀ l ∈ m.chain, IsNamed s.bytes l := by decide +kernel
  have hnnamed : ∀ l ∈ n.chain, IsNamed s.bytes l := by decide +kernel
  exact ⟨hliteral, htiled, hstring.mpr htiled, hscan, hfindings f hf, hm, hn, hmnamed, hnnamed,
    (hnames _ _ _ _ hm).mpr hmnamed, hpaths _ _ _ _ _ _ _ hm hn hmnamed hnnamed⟩

/-- An escape is left out of the name, so the string is found under the key of another property. A dot in
a string reads as one between links. In the query of a type, an outer link is looked up by the property
of the inner one. -/
theorem key_off_path :
    let name (kind : Kind) (role : Role) (start stop : Nat) : Node :=
      .mk (some role) kind false start stop []
    let string (start stop : Nat) (fragments : List (Nat × Nat)) : Node :=
      .mk (some .index) .string false start stop
        (fragments.map fun p => .mk none .fragment false p.1 p.2 [])
    let entry : Entry := { id := "id", name := [], status := .newly }
    let index : Index := { script := [("navigator.sare", entry), ("navigator.a.b", entry),
      ("navigator.a.a", entry)] }
    let escaped : Node := .mk none .subscript false 0 21
      [name .identifier .object 0 9, string 10 20 [(11, 12), (16, 19)]]
    let plain : Node := .mk none .member false 22 36
      [name .identifier .object 22 31, name .propertyName .property 32 36]
    let dotted : Node := .mk none .subscript false 0 16
      [name .identifier .object 0 9, string 10 15 [(11, 14)]]
    let query : Node := .mk none .member true 7 20
      [.mk (some .object) .member true 7 18
        [name .identifier .object 7 16, name .propertyName .property 17 18],
        name .propertyName .property 19 20]
    let s := Source.ofText "navigator['s\\x68are'],navigator.sare"
    let s' := Source.ofText "navigator['a.b']"
    let s'' := Source.ofText "typeof navigator.a.b"
    ((scanTree s index (.mk none .other false 0 36 [escaped, plain])).map (·.key) =
        ["navigator.sare".toList, "navigator.sare".toList] ∧
      writtenName? s.bytes escaped = some "s\\x68are".toList ∧
      writtenName? s.bytes plain = some "sare".toList ∧
      ¬ NamesPath s.bytes "navigator.sare" escaped) ∧
    ((scanTree s' index dotted).map (·.key) = ["navigator.a.b".toList] ∧
      ¬ NamesPath s'.bytes "navigator.a.b" dotted) ∧
    (scanTree s'' index query).map (·.key) = ["navigator.a.a".toList] ∧
      ¬ NamesPath s''.bytes "navigator.a.a" query := by
  intro name string entry index escaped plain dotted query s s' s''
  have hescaped : IsKnown index.script s.bytes escaped "navigator.sare" "navigator.sare" entry :=
    (lookupChain_eq_some_iff ..).mp (by decide +kernel)
  have hdotted : IsKnown index.script s'.bytes dotted "navigator.a.b" "navigator.a.b" entry :=
    (lookupChain_eq_some_iff ..).mp (by decide +kernel)
  have hquery : IsKnown index.script s''.bytes query "navigator.a.a" "navigator.a.a" entry :=
    (lookupChain_eq_some_iff ..).mp (by decide +kernel)
  rw [namesPath_iff hescaped, namesPath_iff hdotted, namesPath_iff hquery]
  decide +kernel

end WebBaseline.Script
