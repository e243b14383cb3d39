import WebBaseline.Finding
import WebBaseline.Script.Tree
import WebBaseline.Text.Case

/-!
Scanning the syntax tree of a script. A member chain that starts at a global object is looked up from
its longest part to its shortest, and gives at most one finding; a construction is looked up by the
name of its constructor. The tree is walked from the root in source order, and a link that is the
object of an enclosing link is not looked up again.
-/

namespace WebBaseline.Script

/-- The global objects at which a looked-up chain starts. -/
def globalRoots : List Text :=
  ["document", "history", "location", "navigator", "performance", "screen", "window"]

/-- A script to be scanned: its text, and the text in bytes. -/
structure Source where
  text : Text
  bytes : List UInt8

namespace Source

def ofText (text : Text) : Source :=
  ⟨text, Text.Utf8.encode text⟩

/-- Whether every character takes one byte. -/
def isPlain (s : Source) : Bool :=
  s.bytes.length = s.text.length

/-- The character offset of a byte offset. In a plain text the two are the same. -/
def charOffset (s : Source) (offset : Nat) : Nat :=
  if s.isPlain then offset else Text.Utf8.charsBefore s.bytes offset

def range (s : Source) (n : Node) : Range :=
  Range.ofOffsets s.text (s.charOffset n.start) (s.charOffset n.stop)

end Source

/-! ### Member chains -/

/-- The name that a link of a chain accesses: the property behind the dot, or the string in the
brackets without its escapes. -/
def accessedName? (source : List UInt8) (n : Node) : Option Text :=
  if n.kind = .member then
    match n.child? .property with
    | none => none
    | some p =>
      if p.kind = .propertyName || p.kind = .identifier then some (p.text source) else none
  else
    match n.child? .index with
    | none => none
    | some i =>
      if i.kind = .string then
        let name := (i.children.filter (·.kind = .fragment)).flatMap (·.text source)
        if name.isEmpty then none else some name
      else none

/-- The names of a chain behind the names in `rest`, root first. A chain has a name at every link and
an identifier at its root. -/
def pathFrom? (source : List UInt8) (n : Node) (rest : List Text) : Option (List Text) :=
  if n.isLink then
    match accessedName? source n with
    | none => none
    | some name =>
      match _h : n.child? .object with
      | none => none
      | some object => pathFrom? source object (name :: rest)
  else if n.kind = .identifier then some (n.text source :: rest)
  else none
termination_by n.size
decreasing_by exact Node.size_lt_of_child? n _h

/-- The names of a member chain, root first. -/
def path? (source : List UInt8) (n : Node) : Option (List Text) :=
  pathFrom? source n []

/-- `s` with its first letter as an ASCII capital. -/
def capitalise : Text → Text
  | [] => []
  | c :: s => c.toUpper :: s

/-- What the table knows about a chain: the key, the label and the entry. The names as written are
tried first, then with a capital root. -/
def lookupChain (script : Table Entry) (source : List UInt8) (n : Node) :
    Option (Text × Text × Entry) :=
  match path? source n with
  | some (root :: name :: names) =>
    if globalRoots.contains root then
      let written := Text.join "." (root :: name :: names)
      let capital := Text.join "." (capitalise root :: name :: names)
      match script.get? written with
      | some e => some (written, written, e)
      | none => (script.get? capital).map fun e => (capital, written, e)
    else none
  | _ => none

def chainFinding (script : Table Entry) (s : Source) (n : Node) : Option Finding :=
  if n.isLink then
    match lookupChain script s.bytes n with
    | some (key, label, e) => Finding.of? (some e) key (s.range n) label
    | none =>
      match _h : n.child? .object with
      | none => none
      | some object => chainFinding script s object
  else none
termination_by n.size
decreasing_by exact Node.size_lt_of_child? n _h

/-! ### Constructions -/

def constructFinding (script : Table Entry) (s : Source) (n : Node) : Option Finding :=
  match n.child? .constructor with
  | none => none
  | some c =>
    if c.kind = .identifier then
      let name := c.text s.bytes
      if (name.head?.map Text.isUpper).getD false then
        Finding.of? (script.get? name) name (s.range n) ("new " ++ name ++ "()")
      else none
    else none

/-! ### The walk -/

/-- The finding at a node. An inner link, the object of an enclosing one, gives none. -/
def nodeFinding (script : Table Entry) (s : Source) (n : Node) (inner : Bool) : Option Finding :=
  if n.isLink then
    if inner then none else chainFinding script s n
  else if n.kind = .construct then constructFinding script s n
  else none

/-- The children of a node, each with whether it is the object of this node's link. -/
def marked (n : Node) : List (Node × Bool) :=
  let object := if n.isLink then n.child? .object else none
  n.children.map fun c => (c, (object.map c.sameAs).getD false)

def pending (work : List (Node × Bool)) : Nat :=
  Node.sizes (work.map (·.1))

theorem pending_marked (n : Node) (rest : List (Node × Bool)) (inner : Bool) :
    pending (marked n ++ rest) < pending ((n, inner) :: rest) := by
  have h : (marked n).map (·.1) = n.children := by simp [marked, Function.comp_def]
  simp only [pending, List.map_append, h, Node.sizes_append, List.map_cons, Node.sizes,
    Node.size_eq n]
  omega

/-- The findings at the nodes of a work list and below them. -/
def walk (script : Table Entry) (s : Source) : List (Node × Bool) → List Finding
  | [] => []
  | (n, inner) :: rest =>
    (nodeFinding script s n inner).toList ++ walk script s (marked n ++ rest)
termination_by work => pending work
decreasing_by exact pending_marked n rest inner

def scanTree (s : Source) (index : Index) (root : Node) : List Finding :=
  walk index.script s [(root, false)]

end WebBaseline.Script
