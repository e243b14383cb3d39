import WebBaseline.Script.Action
import WebBaseline.Script.Stack
import WebBaseline.Text.Utf8

/-!
Parsing by a grammar table. Attempts go through a script side by side, each with a stack of its own. An
attempt reads the next token that its state expects, closes the entries that end before it and takes it.
Where several things can be done, it splits up; attempts that come to the same state at the same place
become one. What cannot go on is given up, and the heaviest attempts stay.
-/

namespace WebBaseline.Script

/-- A way through the script so far. -/
structure Attempt where
  stack : Stack
  /-- The byte offset of the text that is left. -/
  offset : Nat
  rest : Text

namespace Attempt

def joins (a b : Attempt) : Bool :=
  a.stack.state.same b.stack.state && a.offset = b.offset

def join (a b : Attempt) : Attempt :=
  { a with stack := a.stack.join b.stack }

/-- The byte offset behind `n` characters of the text. -/
def offsetAt (a : Attempt) (n : Nat) : Nat :=
  a.offset + Text.Utf8.byteSize (a.rest.take n)

def skip (a : Attempt) (n : Nat) : Attempt :=
  { a with offset := a.offsetAt n, rest := a.rest.drop n }

/-- Joins an attempt to the first of several that it can be joined to. -/
def joinTo? (new : Attempt) : List Attempt → Option (List Attempt)
  | [] => none
  | a :: rest => if a.joins new then some (a.join new :: rest) else (joinTo? new rest).map (a :: ·)

/-- Adds an attempt to several in the order of their weights. -/
def insert (new : Attempt) : List Attempt → List Attempt
  | [] => [new]
  | a :: rest =>
    if a.joins new then a.join new :: rest
    else if a.stack.weight < new.stack.weight then new :: insert a rest
    else a :: insert new rest

end Attempt

structure Round where
  /-- The attempts that have had their turn. -/
  done : List Attempt := []
  /-- The attempts that are still to come. -/
  waiting : List Attempt := []
  /-- The best reading of the whole script. -/
  result : Option Branch := none
  /-- The number of the next stack. -/
  fresh : Nat := 1
  /-- The byte offset that the foremost attempt has reached. -/
  reached : Nat := 0

namespace Round

/-- Adds an attempt, joined to another one if it can be. -/
def add (r : Round) (a : Attempt) : Round :=
  match a.joinTo? r.done with
  | some done => { r with done := done }
  | none =>
    match a.joinTo? r.waiting with
    | some waiting => { r with waiting := waiting }
    | none => { r with waiting := r.waiting ++ [a] }

def offer (r : Round) (b : Branch) : Round :=
  match r.result with
  | none => { r with result := some b }
  | some old => if b.improves old then { r with result := some b } else r

end Round

namespace GrammarTable

/-! ### Closing entries -/

/-- The branches of an entry on top of several stacks. Of two on top of one stack the better one
stays. -/
def gather (entry : Nat) (weight : Int) (found : List (Branch × Stack)) (path : List Branch × Stack) :
    List (Branch × Stack) :=
  let branch := Branch.ofChildren entry weight path.1
  if found.any (·.2.number = path.2.number) then
    found.map fun (old, below) =>
      (if below.number = path.2.number && branch.improves old then branch else old, below)
  else found ++ [(branch, path.2)]

/-- Closes an entry on the stack of an attempt, in all ways. -/
def close (t : GrammarTable) (a : Attempt) (c : Closing) (r : Round) : Round :=
  ((a.stack.pop c.count).foldl (gather c.entry c.weight) []).foldl (fun r (branch, below) =>
    match t.step? below.state (.entry c.entry) with
    | none => r
    | some next =>
      { r with fresh := r.fresh + 1 }.add { a with stack := below.push r.fresh next branch }) r

/-- Does several closings one after the other. The place in `waiting` is that of the first new attempt of
the last closing that gave one. -/
def closeAll (t : GrammarTable) (a : Attempt) (closings : List Closing) (r : Round) : Round × Option Nat :=
  closings.foldl (fun (r, last) c =>
    let closed := t.close a c r
    (closed, if r.waiting.length < closed.waiting.length then some r.waiting.length else last)) (r, none)

/-! ### Taking tokens -/

/-- The attempt behind a token. -/
def take (a : Attempt) (number token : Nat) (next : State) (reading : Reading) : Attempt :=
  let leaf := Branch.leaf token (a.offsetAt reading.gap) (a.offsetAt reading.size)
  { a.skip reading.size with stack := a.stack.push number next leaf }

def finish (a : Attempt) (next : State) (r : Round) : Round :=
  next.items.foldl (fun r item =>
    (a.stack.pop item.count).foldl (fun r (children, _) =>
      r.offer (Branch.ofChildren item.entry 0 children)) r) r

/-- Takes a token once the entries that end before it are closed. A word of the language for which
nothing can be done is a name, unless it is reserved. -/
def settle (t : GrammarTable) : (fuel : Nat) → (token : Token) → Reading → Attempt → Round →
    Option Attempt × Round
  | 0, _, _, _, r => (none, r)
  | fuel + 1, token, reading, a, r =>
    let number := t.tokens.number token
    let choice := t.choice a.stack.state number
    let (r, last) := t.closeAll a choice.closings r
    match choice.next? with
    | some next =>
      let taken := take a r.fresh number next reading
      let r := { r with fresh := r.fresh + 1 }
      if token = .scriptEnd then (none, finish taken next r) else (some taken, r)
    | none =>
      match last.bind fun i => r.waiting[i]?.map fun b => (i, b) with
      | some (i, b) => settle t fuel token reading b { r with waiting := r.waiting.eraseIdx i }
      | none =>
        match token with
        | .mark word =>
          let expected := t.tokens.members a.stack.state.expected
          if choice.closings.isEmpty && reading.isWord && !Token.isReserved t.dialect expected word then
            settle t fuel .name reading a r
          else (none, r)
        | _ => (none, r)

/-- Takes an attempt over one token or comment, if there is one that it can go on with. -/
def advance (t : GrammarTable) (fuel : Nat) (a : Attempt) (r : Round) : Option Attempt × Round :=
  match Token.read? t.dialect (t.tokens.members a.stack.state.expected) a.rest with
  | none => (none, r)
  | some reading =>
    if reading.token = .comment then (some (a.skip reading.size), r)
    else t.settle fuel reading.token reading a r

/-! ### Rounds -/

/-- Takes an attempt on until it is the foremost one. All but the first attempt of a round stop as well
where the foremost one is. -/
def turn (t : GrammarTable) (isFirst : Bool) : (fuel : Nat) → Attempt → Round →
    Option Attempt × Round
  | 0, _, r => (none, r)
  | fuel + 1, a, r =>
    match t.advance fuel a r with
    | (none, r) => (none, r)
    | (some b, r) =>
      if r.reached < b.offset || (!isFirst && b.offset = r.reached) then
        (some b, { r with reached := b.offset })
      else turn t isFirst fuel b r

/-- Gives every attempt of a round its turn. -/
def turns (t : GrammarTable) (isFirst : Bool) : (fuel : Nat) → Round → Round
  | 0, r => r
  | fuel + 1, r =>
    match r.waiting with
    | [] => r
    | a :: rest =>
      match t.turn isFirst fuel a { r with waiting := rest } with
      | (none, r) => turns t false fuel r
      | (some b, r) => turns t false fuel { r with done := r.done ++ [b] }

/-- The number of attempts that stay behind a round. -/
def mostAttempts : Nat := 6

def nextRound (r : Round) : Round :=
  let attempts := r.done.foldl (fun attempts a => a.insert attempts) []
  { r with done := [], waiting := attempts.take mostAttempts }

/-- Goes through rounds until no attempt is left. -/
def rounds (t : GrammarTable) (fuel : Nat) : (count : Nat) → Round → Round
  | 0, r => r
  | count + 1, r =>
    match r.waiting with
    | [] => r
    | _ => rounds t fuel count (nextRound (t.turns true fuel r))

/-- The best reading of a script. Every round gets on by a token, and what is done on a token is bounded
by what was read before. -/
def branch? (t : GrammarTable) (s : Text) : Option Branch :=
  let fuel := (s.length + 10) * 100
  (t.rounds fuel fuel { waiting := [⟨.bottom t.startState, 0, s⟩] }).result

def tree? (t : GrammarTable) (s : Text) : Option Node :=
  (t.branch? s).bind fun b => (b.nodes t {}).head?

end GrammarTable

end WebBaseline.Script
