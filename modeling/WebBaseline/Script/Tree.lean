import WebBaseline.Text.Utf8

/-!
Syntax trees of scripts. A node has a kind, the byte offsets of its stretch in the encoded source, the
role it plays in its parent, and its children in source order. Only the kinds that a scan looks at are
told apart; everything else is `other`. An open node lends its children to its parent: what plays a role
in it plays that role in the parent too.
-/

namespace WebBaseline.Script

inductive Kind where
  /-- A member access with a dot, such as `a.b`. -/
  | member
  /-- A member access with brackets, such as `a[b]`. -/
  | subscript
  /-- A construction, such as `new A()`. -/
  | construct
  | identifier
  | propertyName
  | string
  /-- A stretch of a string without escapes. -/
  | fragment
  | other
deriving DecidableEq, Repr

/-- The part that a node plays in its parent. -/
inductive Role where
  | object
  | property
  | index
  | constructor
deriving DecidableEq, Repr

inductive Node where
  | mk (role : Option Role) (kind : Kind) (isOpen : Bool) (start stop : Nat) (children : List Node)
deriving Repr

namespace Node

def role : Node → Option Role
  | mk role .. => role

def kind : Node → Kind
  | mk _ kind .. => kind

def isOpen : Node → Bool
  | mk _ _ isOpen .. => isOpen

/-- The byte offset at which the node starts. -/
def start : Node → Nat
  | mk _ _ _ start .. => start

/-- The byte offset behind the node. -/
def stop : Node → Nat
  | mk _ _ _ _ stop _ => stop

def children : Node → List Node
  | mk _ _ _ _ _ children => children

def withRole (r : Role) : Node → Node
  | mk _ kind isOpen start stop children => mk (some r) kind isOpen start stop children

mutual

/-- The node that plays the role `r`: the first child that plays it, or that is open and has a node that
plays it. -/
def child? : Node → Role → Option Node
  | mk _ _ _ _ _ children, r => childAmong? children r

/-- The first of several nodes that plays the role `r`, or the node that plays it in the first open
one. -/
def childAmong? : List Node → Role → Option Node
  | [], _ => none
  | c :: rest, r =>
    if c.role = some r then some c
    else if c.isOpen then child? c r <|> childAmong? rest r
    else childAmong? rest r

end

/-- Whether the node is a link of a member chain. -/
def isLink (n : Node) : Bool :=
  n.kind = .member || n.kind = .subscript

def sameAs (m n : Node) : Bool :=
  m.start = n.start && m.stop = n.stop && m.kind = n.kind

def text (source : List UInt8) (n : Node) : Text :=
  Text.Utf8.decodeLossy ((source.drop n.start).take (n.stop - n.start))

mutual

def size : Node → Nat
  | mk _ _ _ _ _ children => sizes children + 1

def sizes : List Node → Nat
  | [] => 0
  | n :: rest => size n + sizes rest

end

theorem sizes_append (a b : List Node) : sizes (a ++ b) = sizes a + sizes b := by
  induction a with
  | nil => simp [sizes]
  | cons n rest ih => simp [sizes, ih, Nat.add_assoc]

theorem size_eq (n : Node) : n.size = sizes n.children + 1 := by
  cases n with
  | mk => rfl

mutual

theorem size_lt_of_child? : ∀ (n : Node) {c : Node} {r : Role}, n.child? r = some c → c.size < n.size
  | mk _ _ _ _ _ children, c, r, h => by
    have := size_le_of_childAmong? children h
    simp only [size]
    omega

theorem size_le_of_childAmong? : ∀ (l : List Node) {c : Node} {r : Role},
    childAmong? l r = some c → c.size ≤ sizes l
  | [], _, _, h => by simp [childAmong?] at h
  | n :: rest, c, r, h => by
    simp only [childAmong?] at h
    simp only [sizes]
    split at h
    · cases h
      omega
    · split at h
      · cases hc : child? n r with
        | none =>
          have := size_le_of_childAmong? rest (by simpa [hc] using h)
          omega
        | some d =>
          have := size_lt_of_child? n hc
          have same : d = c := by simpa [hc] using h
          subst same
          omega
      · have := size_le_of_childAmong? rest h
        omega

end

end Node

end WebBaseline.Script
