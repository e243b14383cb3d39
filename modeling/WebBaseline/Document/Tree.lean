import WebBaseline.Text.Basic

/-!
Trees under construction. The nodes of a tree are numbered in the order of their creation, the document
itself being number zero, so that a node can be named and moved while the tree grows. A text that is put
directly behind another text becomes part of it. `texts` lists the texts of a tree in document order.
-/

namespace WebBaseline.Document

/-- The vocabulary that an element belongs to. -/
inductive Vocabulary where
  | page
  | drawing
  | formula
deriving DecidableEq, Repr

structure Element where
  name : Text
  vocabulary : Vocabulary := .page
  attributes : List (Text × Text) := []
deriving DecidableEq, Repr

inductive Content where
  | element (e : Element)
  /-- A text, its last character first. -/
  | text (reversed : Text)
  | comment
deriving DecidableEq, Repr

/-- A node: what it is, its parent, and its children in order. -/
structure Part where
  content : Content
  parent : Option Nat := none
  children : List Nat := []
deriving Repr

structure Tree where
  parts : Array Part
deriving Repr

/-- A place for a node: at the end of a parent's children, or before one of them. -/
structure Spot where
  parent : Nat
  before : Option Nat := none
deriving DecidableEq, Repr

namespace Tree

def empty : Tree := ⟨#[{ content := .comment }]⟩

def get? (t : Tree) (id : Nat) : Option Part := t.parts[id]?

def element? (t : Tree) (id : Nat) : Option Element :=
  match t.get? id with
  | some { content := .element e, .. } => some e
  | _ => none

def modify (t : Tree) (id : Nat) (f : Part → Part) : Tree :=
  ⟨t.parts.modify id f⟩

/-- Adds a node that has no place yet, and gives its number. -/
def add (t : Tree) (c : Content) : Tree × Nat :=
  (⟨t.parts.push { content := c }⟩, t.parts.size)

def detach (t : Tree) (id : Nat) : Tree :=
  match (t.get? id).bind (·.parent) with
  | none => t
  | some p =>
    (t.modify p fun part => { part with children := part.children.filter (· != id) }).modify id
      fun part => { part with parent := none }

/-- `ids` with `id` before `mark`, or at the end. -/
def inserted (id : Nat) (mark : Option Nat) : List Nat → List Nat
  | [] => [id]
  | i :: ids => if mark = some i then id :: i :: ids else i :: inserted id mark ids

def put (t : Tree) (id : Nat) (spot : Spot) : Tree :=
  ((t.detach id).modify spot.parent fun part =>
    { part with children := inserted id spot.before part.children }).modify id
    fun part => { part with parent := some spot.parent }

/-- The child directly before a place. -/
def previous? (t : Tree) (spot : Spot) : Option Nat :=
  let children := ((t.get? spot.parent).map (·.children)).getD []
  match spot.before with
  | none => children.getLast?
  | some mark => (children.takeWhile (· != mark)).getLast?

/-- Puts a character into a place, at the end of the text before it if there is one. -/
def putChar (t : Tree) (c : Char) (spot : Spot) : Tree :=
  let asNew :=
    let (t, id) := t.add (.text [c])
    t.put id spot
  match t.previous? spot with
  | none => asNew
  | some id =>
    match t.get? id with
    | some { content := .text s, .. } => t.modify id fun part => { part with content := .text (c :: s) }
    | _ => asNew

/-- Moves all children of one node to the end of another's. -/
def moveChildren (t : Tree) (source target : Nat) : Tree :=
  (((t.get? source).map (·.children)).getD []).foldl (fun t id => t.put id ⟨target, none⟩) t

/-- The texts below a node, in document order, to the given depth. -/
def textsFrom (t : Tree) : (depth : Nat) → (id : Nat) → List Text
  | 0, _ => []
  | depth + 1, id =>
    match t.get? id with
    | none => []
    | some { content := .text s, .. } => [s.reverse]
    | some part => part.children.flatMap (textsFrom t depth)

/-- The texts of a tree, in document order. -/
def texts (t : Tree) : List Text :=
  t.textsFrom (t.parts.size + 1) 0

end Tree

end WebBaseline.Document
