import WebBaseline.Script.Rule

/-!
Layouts of rules. A rule is laid out as a row of steps, one for each token, part or list of items in it,
and the ways through them: which steps may come first, which may follow which, and which may be the last.
-/

namespace WebBaseline.Script

/-- A symbol of the grammar, by its number: a token, or an entry of the grammar's table. -/
inductive Symbol where
  | token (n : Nat)
  | entry (n : Nat)
deriving DecidableEq, Repr

/-- What the rules around a symbol say about it. -/
structure Setting where
  strength : Strength := .level 0
  side : Option Side := none
  weight : Int := 0
  kind : Option Kind := none
  role : Option Role := none
  free : Bool := false
deriving Repr

structure Step extends Setting where
  symbol : Symbol
deriving Repr

/-- The numbers of symbols. -/
structure Numbering where
  token : Token → Nat
  part : Part → Nat
  /-- The number of the list of such items. -/
  items : Rule → Nat

/-- A stretch of steps, which are numbered on, and the ways through it. -/
structure Stretch where
  steps : List Step := []
  /-- Pairs of steps that may follow each other. -/
  ways : List (Nat × Nat) := []
  firsts : List Nat := []
  lasts : List Nat := []
  /-- Whether the stretch can be left out. -/
  optional : Bool := false
deriving Repr

namespace Stretch

def single (setting : Setting) (symbol : Symbol) (i : Nat) : Stretch :=
  { steps := [{ setting with symbol := symbol }], firsts := [i], lasts := [i] }

def andThen (a b : Stretch) : Stretch where
  steps := a.steps ++ b.steps
  ways := a.ways ++ b.ways ++ a.lasts.flatMap fun i => b.firsts.map fun j => (i, j)
  firsts := if a.optional then a.firsts ++ b.firsts else a.firsts
  lasts := if b.optional then b.lasts ++ a.lasts else b.lasts
  optional := a.optional && b.optional

def orElse (a b : Stretch) : Stretch where
  steps := a.steps ++ b.steps
  ways := a.ways ++ b.ways
  firsts := a.firsts ++ b.firsts
  lasts := a.lasts ++ b.lasts
  optional := a.optional || b.optional

/-- The stretch of a rule, with steps from the number `i` on. -/
def ofRule (numbers : Numbering) (setting : Setting) (i : Nat) : Rule → Stretch
  | .empty => { optional := true }
  | .token t => single setting (.token (numbers.token t)) i
  | .part p => single setting (.entry (numbers.part p)) i
  | .items r => single setting (.entry (numbers.items r)) i
  | .andThen a b =>
    let x := ofRule numbers setting i a
    x.andThen (ofRule numbers setting (i + x.steps.length) b)
  | .orElse a b =>
    let x := ofRule numbers setting i a
    x.orElse (ofRule numbers setting (i + x.steps.length) b)
  | .bound strength side r =>
    ofRule numbers { setting with strength := strength, side := side <|> setting.side } i r
  | .weighed weight r => ofRule numbers { setting with weight := weight } i r
  | .named kind r => ofRule numbers { setting with kind := some kind } i r
  | .inRole role r => ofRule numbers { setting with role := some role } i r
  | .free r => ofRule numbers { setting with free := true } i r

end Stretch

/-- A rule as steps with the ways through them. -/
structure Layout where
  steps : Array Step
  firsts : List Nat
  /-- The steps that may follow each step. -/
  next : Array (List Nat)
  /-- Whether each step may be the last one. -/
  ends : Array Bool
deriving Repr

def Stretch.layout (s : Stretch) : Layout :=
  let numbers := List.range s.steps.length
  { steps := s.steps.toArray
    firsts := s.firsts
    next := (numbers.map fun i => (s.ways.filter (·.1 = i)).map (·.2)).toArray
    ends := (numbers.map s.lasts.contains).toArray }

namespace Layout

def ofRule (numbers : Numbering) (r : Rule) : Layout :=
  (Stretch.ofRule numbers {} 0 r).layout

/-- The steps that may follow step `i`. -/
def after (l : Layout) (i : Nat) : List Nat :=
  l.next[i]?.getD []

/-- Whether step `i` may be the last one. -/
def endsAt (l : Layout) (i : Nat) : Bool :=
  l.ends[i]?.getD false

/-- The steps through `symbols` that start with one of `choices`, if there is a way. -/
def wayFrom? (l : Layout) (choices : List Nat) : List Symbol → Option (List Step)
  | [] => none
  | [x] =>
    choices.findSome? fun i =>
      match l.steps[i]? with
      | some step => if step.symbol = x && l.endsAt i then some [step] else none
      | none => none
  | x :: rest =>
    choices.findSome? fun i =>
      match l.steps[i]? with
      | some step =>
        if step.symbol = x then (wayFrom? l (l.after i) rest).map (step :: ·) else none
      | none => none

/-- The steps of one way through `symbols`, if there is one. -/
def way? (l : Layout) (symbols : List Symbol) : Option (List Step) :=
  wayFrom? l l.firsts symbols

end Layout

end WebBaseline.Script
