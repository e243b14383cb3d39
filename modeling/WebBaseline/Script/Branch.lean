import WebBaseline.Script.GrammarTable

/-!
Branches: what the steps of the grammar have matched. A branch is a token of the script, or an entry with
the branches of its steps. Where a text can be read in two ways, the heavier branch is chosen. `nodes`
gives the syntax nodes of a branch.
-/

namespace WebBaseline.Script

/-- What a symbol of the grammar has matched, with the byte offsets of its stretch. -/
inductive Branch where
  | leaf (token start stop : Nat)
  | node (entry : Nat) (weight : Int) (start stop : Nat) (children : List Branch)
deriving Repr

namespace Branch

def symbol : Branch → Symbol
  | leaf token .. => .token token
  | node entry .. => .entry entry

def start : Branch → Nat
  | leaf _ start _ => start
  | node _ _ start .. => start

def stop : Branch → Nat
  | leaf _ _ stop => stop
  | node _ _ _ stop _ => stop

def weight : Branch → Int
  | leaf .. => 0
  | node _ weight .. => weight

def children : Branch → List Branch
  | leaf .. => []
  | node _ _ _ _ children => children

/-- The branch of an entry of some weight. It has the weight of its children, too. -/
def ofChildren (entry : Nat) (weight : Int) (children : List Branch) : Branch :=
  node entry (children.foldl (fun sum b => sum + b.weight) weight)
    ((children.head?.map start).getD 0) ((children.getLast?.map stop).getD 0) children

/-- Whether two branches are readings of the same stretch as the same symbol. -/
def alike (a b : Branch) : Bool :=
  a.symbol = b.symbol && a.start = b.start && a.stop = b.stop &&
    a.children.length = b.children.length

mutual

/-- The order of branches of the same weight: by symbols, then by the numbers of children, then by the
children from the first one on. -/
def order : Branch → Branch → Ordering
  | leaf m .., leaf n .. => compare m n
  | leaf .., node .. => .lt
  | node .., leaf .. => .gt
  | node m _ _ _ as, node n _ _ _ bs =>
    ((compare m n).then (compare as.length bs.length)).then (orderAmong as bs)

def orderAmong : List Branch → List Branch → Ordering
  | [], _ => .eq
  | _ :: _, [] => .eq
  | a :: as, b :: bs => (order a b).then (orderAmong as bs)

end

def improves (new old : Branch) : Bool :=
  old.weight < new.weight || (old.weight = new.weight && order old new = .gt)

/-! ### Syntax nodes -/

/-- Gives a role to the first of several nodes. -/
def giveRole (role : Option Role) : List Node → List Node
  | [] => []
  | n :: rest =>
    match role with
    | none => n :: rest
    | some r => n.withRole r :: rest

mutual

/-- The nodes of a branch where the rules around it say `setting`. Of the tokens, names have nodes, and
those that a rule gives a kind. -/
def nodes (t : GrammarTable) (setting : Setting) : Branch → List Node
  | leaf token start stop =>
    let usual := if token = t.tokens.number .name then some Kind.identifier else none
    match setting.kind <|> usual with
    | none => []
    | some kind => [.mk setting.role kind false start stop []]
  | node entry _ start stop children =>
    match t.entry? entry with
    | none => []
    | some e =>
      let inner := nodesAmong t ((e.way? (children.map symbol)).getD []) children
      match e.part?.bind Part.kind?, setting.kind with
      | some kind, other => [.mk setting.role (other.getD kind) false start stop inner]
      | none, some kind => [.mk setting.role kind true start stop inner]
      | none, none => giveRole setting.role inner

/-- The nodes of the branches of some steps. -/
def nodesAmong (t : GrammarTable) : List Step → List Branch → List Node
  | step :: steps, b :: rest => nodes t step.toSetting b ++ nodesAmong t steps rest
  | [], _ => []
  | _ :: _, [] => []

end

end Branch

end WebBaseline.Script
