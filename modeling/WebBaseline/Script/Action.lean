import WebBaseline.Script.State

/-!
What a parser does on a token. In a state, a token may be taken, and entries that end before it may be
closed. Strengths decide between them, then sides; where neither decides, all that is possible is done,
and the script goes on in several ways.
-/

namespace WebBaseline.Script

structure Closing where
  entry : Nat
  count : Nat
  weight : Int
deriving DecidableEq, Repr

/-- What can be done on a token. -/
structure Choice where
  /-- The entries that can be closed before the token. -/
  closings : List Closing
  /-- The state behind the token, if it can be taken. -/
  next? : Option State
deriving Repr

/-- Closings that are equally strong, and what they compete with. -/
structure Closable where
  closings : List Closing := []
  contender : Contender := ⟨.level 0, []⟩
  sides : List (Option Side) := []
deriving Repr

namespace Closable

/-- Adds a closing behind the step `step`. Stronger ones drive out weaker ones. -/
def add (orders : List (List Rank)) (closable : Closable) (closing : Closing) (step : Step)
    (part? : Option Part) : Closable :=
  let alone : Closable := ⟨[closing], ⟨step.strength, part?.toList⟩, [step.side]⟩
  if closable.closings.isEmpty then alone
  else match compareContenders orders alone.contender closable.contender with
    | .gt => alone
    | .lt => closable
    | .eq =>
      { closings :=
          if closable.closings.contains closing then closable.closings
          else closable.closings ++ [closing]
        contender := ⟨step.strength, closable.contender.parts ++ part?.toList⟩
        sides := closable.sides ++ [step.side] }

end Closable

namespace GrammarTable

def lastStep? (t : GrammarTable) (item : Item) : Option (Step × Option Part) :=
  (t.entry? item.entry).bind fun e => e.steps[item.place]?.map fun step => (step, e.part?)

def closesBefore (t : GrammarTable) (token : Nat) (item : Item) : Bool :=
  t.canEnd item && item.ahead.testBit token

def goesOnWith (t : GrammarTable) (token : Nat) (item : Item) : Bool :=
  (t.nextSteps item).any fun next => (t.opening next.2).testBit token

/-- The strongest closings before a token. -/
def closable (t : GrammarTable) (s : State) (token : Nat) : Closable :=
  (s.items.filter (t.closesBefore token)).foldl (fun found item =>
    match t.lastStep? item with
    | none => found
    | some (step, part?) => found.add t.orders ⟨item.entry, item.count, step.weight⟩ step part?) {}

def comparisons (t : GrammarTable) (s : State) (token : Nat) (c : Contender) : List Ordering :=
  (s.items.filter (t.goesOnWith token)).filterMap fun item =>
    (t.lastStep? item).map fun (step, part?) =>
      compareContenders t.orders ⟨step.strength, part?.toList⟩ c

/-- Whether all that competes for a token is one list. -/
def onlyList (t : GrammarTable) (s : State) (token : Nat) : Bool :=
  match s.items.filter fun item => t.goesOnWith token item || t.closesBefore token item with
  | [] => false
  | item :: rest =>
    rest.all (·.entry = item.entry) && ((t.entry? item.entry).map (·.part?.isNone)).getD false

/-- What is done on a token. A list is closed as early as possible. -/
def choice (t : GrammarTable) (s : State) (token : Nat) : Choice :=
  let closable := t.closable s token
  let closings := closable.closings
  match t.step? s (.token token) with
  | none => ⟨closings, none⟩
  | some next =>
    if closings.isEmpty then ⟨[], some next⟩
    else if t.onlyList s token then ⟨closings, none⟩
    else
      let found := t.comparisons s token closable.contender
      match found.contains .gt, found.contains .lt with
      | true, true => ⟨closings, some next⟩
      | true, false => ⟨[], some next⟩
      | false, true => ⟨closings, none⟩
      | false, false =>
        if closable.sides.all (· = some .left) then ⟨closings, none⟩
        else if closable.sides.all (· = some .right) then ⟨[], some next⟩
        else ⟨closings, some next⟩

end GrammarTable

end WebBaseline.Script
