import Std.Data.HashMap
import WebBaseline.Script.Layout
import WebBaseline.Script.Order

/-!
Tables of grammars. The symbols of a grammar are numbered: its tokens in the order in which its rules
name them, and its entries, which are the parts in their order and then the lists of items. A set of
tokens is a number with a bit for each of them.
-/

namespace WebBaseline.Script

/-! ### Symbols of a grammar -/

namespace Rule

def tokens : Rule → List Token
  | empty => []
  | token t => [t]
  | part _ => []
  | andThen a b => a.tokens ++ b.tokens
  | orElse a b => a.tokens ++ b.tokens
  | items r => r.tokens
  | bound _ _ r => r.tokens
  | weighed _ r => r.tokens
  | named _ r => r.tokens
  | inRole _ r => r.tokens
  | free r => r.tokens

/-- The items of the lists in a rule, behind those that were found before. -/
def addLists (found : List Rule) : Rule → List Rule
  | empty => found
  | token _ => found
  | part _ => found
  | andThen a b => b.addLists (a.addLists found)
  | orElse a b => b.addLists (a.addLists found)
  | items r => if found.contains r then found else r.addLists (found ++ [r])
  | bound _ _ r => r.addLists found
  | weighed _ r => r.addLists found
  | named _ r => r.addLists found
  | inRole _ r => r.addLists found
  | free r => r.addLists found

/-- The rule of a list: an item, or two lists. -/
def listOf (item : Rule) : Rule :=
  orElse (andThen (items item) (items item)) item

end Rule

structure TokenTable where
  tokens : Array Token := #[]
  numbers : Std.HashMap Token Nat := {}

namespace TokenTable

def add (t : TokenTable) (x : Token) : TokenTable :=
  if t.numbers.contains x then t
  else { tokens := t.tokens.push x, numbers := t.numbers.insert x t.tokens.size }

/-- The number of a token; what is not in the table has the number behind the last one. -/
def number (t : TokenTable) (x : Token) : Nat :=
  t.numbers.getD x t.tokens.size

def members (t : TokenTable) (set : Nat) : List Token :=
  (t.tokens.toList.zipIdx.filter fun (_, n) => set.testBit n).map (·.1)

end TokenTable

/-! ### Entries -/

/-- An entry that may stand first in another one. -/
structure Corner where
  entry : Nat
  /-- The tokens that may follow it in the other entry. -/
  follow : Nat
  /-- Whether it may also end the other entry. -/
  atEnd : Bool
deriving Repr

/-- A part or a list, laid out. -/
structure GrammarEntry extends Layout where
  /-- The part; a list has none. -/
  part? : Option Part
  /-- The tokens that may come first. -/
  opening : Nat
  /-- The tokens that may follow each step in the entry. -/
  follow : Array Nat
  corners : List Corner

namespace GrammarEntry

/-- The tokens that may follow step `i` in the entry. -/
def followAt (e : GrammarEntry) (i : Nat) : Nat :=
  e.follow[i]?.getD 0

end GrammarEntry

structure GrammarTable where
  dialect : Dialect
  /-- The orders of strengths. -/
  orders : List (List Rank)
  tokens : TokenTable
  entries : Array GrammarEntry

namespace GrammarTable

/-- The tokens that a step may start with, if entries start with those in `openings`. A name that may be
a reserved word stands for two tokens. -/
def openingOf (tokens : TokenTable) (openings : Array Nat) (step : Step) : Nat :=
  match step.symbol with
  | .entry n => openings[n]?.getD 0
  | .token n =>
    if step.free && n = tokens.number .name then 1 <<< n ||| 1 <<< tokens.number .anyName
    else 1 <<< n

/-- The tokens that one of several steps may start with. -/
def openingAmong (tokens : TokenTable) (openings : Array Nat) (l : Layout) (steps : List Nat) : Nat :=
  (steps.filterMap (l.steps[·]?)).foldl (fun set step => set ||| openingOf tokens openings step) 0

/-- The tokens that each entry may start with, found by going through the entries until nothing
changes. -/
def findOpenings (tokens : TokenTable) (layouts : Array Layout) : (fuel : Nat) → Array Nat → Array Nat
  | 0, openings => openings
  | fuel + 1, openings =>
    let found := layouts.map fun l => openingAmong tokens openings l l.firsts
    if found = openings then openings else findOpenings tokens layouts fuel found

def addCorner (c : Corner) : List Corner → List Corner
  | [] => [c]
  | d :: rest =>
    if d.entry = c.entry then ⟨c.entry, d.follow ||| c.follow, d.atEnd || c.atEnd⟩ :: rest
    else d :: addCorner c rest

def findCorners (l : Layout) (follow : Array Nat) : List Corner :=
  l.firsts.foldl (fun corners i =>
    match l.steps[i]?.map Step.symbol with
    | some (.entry n) => addCorner ⟨n, follow[i]?.getD 0, l.endsAt i⟩ corners
    | _ => corners) []

def makeEntry (tokens : TokenTable) (openings : Array Nat) (part? : Option Part) (l : Layout) :
    GrammarEntry :=
  let follow := l.next.map (openingAmong tokens openings l)
  { l with
    part? := part?
    opening := openingAmong tokens openings l l.firsts
    follow := follow
    corners := findCorners l follow }

/-- The table of a grammar that has one rule for each part. -/
def ofRules (d : Dialect) (orders : List (List Rank)) (grammar : List (Part × Rule)) : GrammarTable :=
  let rules := grammar.mergeSort fun a b => a.1.place ≤ b.1.place
  let lists := rules.foldl (fun found rule => rule.2.addLists found) []
  let named := rules.flatMap fun rule => rule.2.tokens
  let tokens := (named ++ [Token.anyName]).foldl TokenTable.add {}
  let numbers : Numbering :=
    { token := tokens.number, part := Part.place, items := fun r => rules.length + lists.idxOf r }
  let all := rules.map (fun rule => (some rule.1, rule.2)) ++ lists.map fun r => (none, r.listOf)
  let layouts := (all.map fun entry => Layout.ofRule numbers entry.2).toArray
  let openings := findOpenings tokens layouts (layouts.size + 1) (layouts.map fun _ => 0)
  { dialect := d
    orders := orders
    tokens := tokens
    entries := ((all.map (·.1)).zipWith (makeEntry tokens openings) layouts.toList).toArray }

def entry? (t : GrammarTable) (n : Nat) : Option GrammarEntry :=
  t.entries[n]?

/-- The tokens that a step may start with. -/
def opening (t : GrammarTable) (step : Step) : Nat :=
  match step.symbol with
  | .entry n => (t.entries[n]?.map (·.opening)).getD 0
  | .token _ => openingOf t.tokens #[] step

end GrammarTable

end WebBaseline.Script
