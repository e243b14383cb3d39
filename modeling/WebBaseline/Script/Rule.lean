import WebBaseline.Script.Part
import WebBaseline.Script.Token

/-!
Grammar rules. A rule says of which tokens and parts a part of a script is made, how strongly they are
bound together where two rules compete for a token, and what nodes they give.
-/

namespace WebBaseline.Script

/-- How strongly a rule binds: by a number, or by a name that has its place in an order. -/
inductive Strength where
  | level (n : Int)
  | member
  | templateCall
  | construct
  | call
  | unaryWord
  | power
  | product
  | plus
  | shift
  | relation
  | equality
  | bitAnd
  | bitXor
  | bitOr
  | logicAnd
  | logicOr
  | choice
  | assign
  | declare
  | literal
  | object
  | instantiation
  | extended
  | unary
  | binary
deriving DecidableEq, Repr

/-- The side on which a rule that binds as strongly as another one is taken first. -/
inductive Side where
  | left
  | right
deriving DecidableEq, Repr

inductive Rule where
  | empty
  | token (t : Token)
  | part (p : Part)
  | andThen (a b : Rule)
  | orElse (a b : Rule)
  /-- One item or more. -/
  | items (item : Rule)
  | bound (strength : Strength) (side : Option Side) (r : Rule)
  /-- Adds to the weight by which one of two readings of the same text is chosen. -/
  | weighed (weight : Int) (r : Rule)
  /-- Gives the node of a token or a part another kind. -/
  | named (kind : Kind) (r : Rule)
  /-- Gives the node of a token or a part its role. -/
  | inRole (role : Role) (r : Rule)
  /-- Lets names be reserved words. -/
  | free (r : Rule)
deriving DecidableEq, Repr

namespace Rule

instance : Inhabited Rule := ⟨empty⟩

instance : Coe String Rule := ⟨fun text => token (.mark text)⟩

instance : Coe Part Rule := ⟨part⟩

instance : Coe Token Rule := ⟨token⟩

def seq : List Rule → Rule
  | [] => empty
  | [r] => r
  | r :: rest => andThen r (seq rest)

def alt : List Rule → Rule
  | [] => empty
  | [r] => r
  | r :: rest => orElse r (alt rest)

/-- All the rules in turn, or nothing. -/
def opt (rules : List Rule) : Rule :=
  orElse (seq rules) empty

/-- Any number of items. -/
def many (item : Rule) : Rule :=
  orElse (items item) empty

/-- One item or more with `separator` between them. -/
def separated (separator item : Rule) : Rule :=
  seq [item, many (seq [separator, item])]

/-- One item or more with commas between them. -/
def listed (item : Rule) : Rule :=
  separated "," item

/-- A rule that binds with this strength. -/
def binds (s : Strength) (r : Rule) : Rule :=
  bound s none r

/-- The same, and from the left. -/
def bindsLeft (s : Strength) (r : Rule) : Rule :=
  bound s (some .left) r

/-- The same, and from the right. -/
def bindsRight (s : Strength) (r : Rule) : Rule :=
  bound s (some .right) r

def left (r : Rule) : Rule :=
  bindsLeft (.level 0) r

def right (r : Rule) : Rule :=
  bindsRight (.level 0) r

end Rule

end WebBaseline.Script
