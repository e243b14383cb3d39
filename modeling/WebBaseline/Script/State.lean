import WebBaseline.Script.GrammarTable

/-!
States of a parser. A state tells which entries of the grammar are under way and how far each of them has
come. It keeps the entries that have taken a step as items, and finds from them the entries that may open
now. A step over a symbol leads to the next state.
-/

namespace WebBaseline.Script

/-- An entry under way. -/
structure Item where
  /-- The number of steps that were taken. -/
  count : Nat
  entry : Nat
  /-- The step that was taken last. -/
  place : Nat
  /-- The tokens that may follow the entry. -/
  ahead : Nat
deriving DecidableEq, Repr

/-- An entry that may open, and the tokens that may follow it. -/
structure Opening where
  entry : Nat
  ahead : Nat
deriving Repr

structure State where
  /-- The entries under way, by their steps, numbers and places. -/
  items : List Item
  openings : List Opening
  /-- The tokens that are expected. -/
  expected : Nat
deriving Repr

namespace Item

def before (a b : Item) : Bool :=
  a.count < b.count ||
    a.count = b.count && (a.entry < b.entry || a.entry = b.entry && a.place < b.place)

/-- Whether two items have come equally far. -/
def alike (a b : Item) : Bool :=
  a.count = b.count && a.entry = b.entry && a.place = b.place

/-- Adds an item to a list in order. Items that have come equally far become one. -/
def insert (x : Item) : List Item → List Item
  | [] => [x]
  | y :: rest =>
    if x.before y then x :: y :: rest
    else if x.alike y then { y with ahead := y.ahead ||| x.ahead } :: rest
    else y :: insert x rest

end Item

namespace State

/-- Whether two states are the same: all of a state follows from its items. -/
def same (a b : State) : Bool :=
  a.items = b.items

end State

namespace GrammarTable

/-! ### Openings -/

/-- The tokens that may follow step `i` of an entry, if those in `ahead` may follow the entry. -/
def followOf (e : GrammarEntry) (i ahead : Nat) : Nat :=
  if e.endsAt i then e.followAt i ||| ahead else e.followAt i

def cornerOpenings (e : GrammarEntry) (ahead : Nat) : List Opening :=
  e.corners.map fun c => ⟨c.entry, if c.atEnd then c.follow ||| ahead else c.follow⟩

/-- Finds all that is opened by the openings in `work`. `found` has the tokens that may follow each entry
that was opened so far. -/
def openAll (t : GrammarTable) : (fuel : Nat) → (found : Array (Option Nat)) → (work : List Opening) →
    Array (Option Nat)
  | 0, found, _ => found
  | _ + 1, found, [] => found
  | fuel + 1, found, o :: work =>
    let known := (found[o.entry]?).join
    let ahead := known.getD 0 ||| o.ahead
    if known = some ahead then openAll t fuel found work
    else match t.entry? o.entry with
      | none => openAll t fuel found work
      | some e =>
        openAll t fuel (found.setIfInBounds o.entry (some ahead)) (cornerOpenings e ahead ++ work)

/-- A number of steps in which `openAll` is done: every entry gets each token at most once. -/
def openingSteps (t : GrammarTable) : Nat :=
  t.entries.size * t.entries.size * (t.tokens.tokens.size + 2)

/-- All that is opened by some openings, by the numbers of the entries. -/
def openings (t : GrammarTable) (work : List Opening) : List Opening :=
  let found := openAll t t.openingSteps (Array.replicate t.entries.size none) work
  found.toList.zipIdx.filterMap fun (ahead, n) => ahead.map fun a => ⟨n, a⟩

/-! ### Steps -/

/-- The steps that an item can take next, with their numbers. -/
def nextSteps (t : GrammarTable) (item : Item) : List (Nat × Step) :=
  match t.entry? item.entry with
  | none => []
  | some e => (e.after item.place).filterMap fun i => e.steps[i]?.map fun step => (i, step)

def itemOpenings (t : GrammarTable) (item : Item) : List Opening :=
  match t.entry? item.entry with
  | none => []
  | some e =>
    (t.nextSteps item).filterMap fun (i, step) =>
      match step.symbol with
      | .entry n => some ⟨n, followOf e i item.ahead⟩
      | .token _ => none

def canEnd (t : GrammarTable) (item : Item) : Bool :=
  match t.entry? item.entry with
  | none => false
  | some e => e.endsAt item.place

def itemExpects (t : GrammarTable) (item : Item) : Nat :=
  (t.nextSteps item).foldl (fun set next => set ||| t.opening next.2)
    (if t.canEnd item then item.ahead else 0)

/-- The state with some items and openings. -/
def stateOf (t : GrammarTable) (items : List Item) (opened : List Opening) : State :=
  { items := items
    openings := t.openings opened
    expected :=
      opened.foldl (fun set o => set ||| ((t.entry? o.entry).map (·.opening)).getD 0)
        (items.foldl (fun set item => set ||| t.itemExpects item) 0) }

def startState (t : GrammarTable) : State :=
  t.stateOf [] [⟨Part.script.place, 0⟩]

/-- The items of the entries that go on with a step over `x`. -/
def itemsOn (t : GrammarTable) (s : State) (x : Symbol) : List Item :=
  s.items.flatMap fun item =>
    (t.nextSteps item).filterMap fun (i, step) =>
      if step.symbol = x then some ⟨item.count + 1, item.entry, i, item.ahead⟩ else none

/-- The items of the entries that open with a step over `x`. -/
def itemsOpened (t : GrammarTable) (s : State) (x : Symbol) : List Item :=
  s.openings.flatMap fun o =>
    match t.entry? o.entry with
    | none => []
    | some e =>
      e.firsts.filterMap fun i =>
        if (e.steps[i]?.map Step.symbol) = some x then some ⟨1, o.entry, i, o.ahead⟩ else none

/-- The items that a step over `x` gives. -/
def itemsAfter (t : GrammarTable) (s : State) (x : Symbol) : List Item :=
  (t.itemsOn s x ++ t.itemsOpened s x).foldl (fun items item => item.insert items) []

def step? (t : GrammarTable) (s : State) (x : Symbol) : Option State :=
  match t.itemsAfter s x with
  | [] => none
  | items => some (t.stateOf items (items.flatMap t.itemOpenings))

end GrammarTable

end WebBaseline.Script
