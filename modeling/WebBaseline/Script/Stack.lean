import WebBaseline.Script.Branch
import WebBaseline.Script.State

/-!
Stacks of a parser. The top of a stack is a state, and its links lead to what lies below: each has the
branch that was matched between two states. A stack has several links where different readings of a text
have led to the same state.
-/

namespace WebBaseline.Script

mutual

/-- A stack. Its number tells it from all stacks that were made apart from it. -/
inductive Stack where
  | mk (number : Nat) (state : State) (offset : Nat) (weight : Int) (links : Links)

/-- The links from a stack to the stacks below. -/
inductive Links where
  | nil
  | cons (branch : Branch) (below : Stack) (rest : Links)

end

def Links.toList : Links → List (Branch × Stack)
  | nil => []
  | cons branch below rest => (branch, below) :: rest.toList

def Links.ofList : List (Branch × Stack) → Links
  | [] => nil
  | (branch, below) :: rest => cons branch below (ofList rest)

namespace Stack

def number : Stack → Nat
  | mk number .. => number

def state : Stack → State
  | mk _ state .. => state

/-- The byte offset up to which the stack has matched the script. -/
def offset : Stack → Nat
  | mk _ _ offset .. => offset

def weight : Stack → Int
  | mk _ _ _ weight _ => weight

def links : Stack → Links
  | mk _ _ _ _ links => links

/-- The stack before a script. -/
def bottom (state : State) : Stack :=
  mk 0 state 0 0 .nil

/-- A new stack with one branch more. -/
def push (s : Stack) (number : Nat) (state : State) (branch : Branch) : Stack :=
  mk number state branch.stop (s.weight + branch.weight) (.cons branch s .nil)

def withLinks (s : Stack) (weight : Int) (links : List (Branch × Stack)) : Stack :=
  mk s.number s.state s.offset weight (.ofList links)

/-! ### Taking branches off -/

/-- Takes one branch more off several stacks. The first links go before all others. -/
def popOne (paths : List (List Branch × Stack)) : List (List Branch × Stack) :=
  let along (path : List Branch × Stack) (links : List (Branch × Stack)) :=
    links.map fun (branch, below) => (branch :: path.1, below)
  paths.flatMap (fun path => along path (path.2.links.toList.take 1)) ++
    paths.flatMap fun path => along path (path.2.links.toList.drop 1)

/-- The ways to take off `n` branches, each with the stack below. -/
def popAll : (n : Nat) → List (List Branch × Stack) → List (List Branch × Stack)
  | 0, paths => paths
  | n + 1, paths => popAll n (popOne paths)

/-- The ways to take `n` branches off a stack, each with the stack below. -/
def pop (s : Stack) (n : Nat) : List (List Branch × Stack) :=
  popAll n [([], s)]

/-! ### Joining stacks -/

/-- The number of links that a stack may have. -/
def mostLinks : Nat := 8

def joins (a b : Stack) : Bool :=
  a.state.same b.state && a.offset = b.offset

mutual

/-- A stack with one link more. A link to a stack that is already linked by a branch of the same kind
only adds what is new. -/
def addLink (s : Stack) (branch : Branch) : Stack → Stack
  | mk number state offset weight links =>
    let below := mk number state offset weight links
    let own := s.links.toList
    let found := own.findIdx? fun link =>
      link.1.alike branch && (link.2.number = number || link.2.joins below)
    match found.bind fun i => own[i]?.map fun link => (i, link) with
    | none =>
      if mostLinks ≤ own.length then s
      else s.withLinks (max s.weight (weight + branch.weight)) (own ++ [(branch, below)])
    | some (i, known, linked) =>
      if linked.number = number then
        if known.weight < branch.weight then
          s.withLinks (weight + branch.weight) (own.set i (branch, below))
        else s
      else
        s.withLinks (max s.weight (weight + branch.weight)) (own.set i (known, addLinks linked links))

def addLinks (s : Stack) : Links → Stack
  | .nil => s
  | .cons branch below rest => addLinks (addLink s branch below) rest

end

def join (a b : Stack) : Stack :=
  a.addLinks b.links

end Stack

end WebBaseline.Script
