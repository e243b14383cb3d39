import WebBaseline.CommandLine.Run

/-!
A session: the index that is published for everybody, and indexes under names. An index is built at a
moment of its own, so that two indexes with the same contents are told apart by when they were built.
-/

namespace WebBaseline

/-- An index with the number of the moment at which it was built. -/
structure Snapshot where
  moment : Nat
  index : Index

structure Session where
  /-- The number of indexes built so far. -/
  built : Nat := 0
  /-- The published index; at first it is empty. -/
  current : Snapshot := ⟨0, {}⟩
  named : List (Text × Snapshot) := []
  parse : Script.Parser := Script.parse?

namespace Session

/-- What is asked of a session. Where a name may be missing, the published index is meant. -/
inductive Step where
  | build (name : Text) (index : Index)
  | rebuild (name : Text) (index : Index)
  | publish (name : Text)
  /-- The command line loads an index, which may fail; one that is loaded is published. -/
  | load (world : CommandLine.World) (sources : CommandLine.Sources) (severity : Option Text)
  | current
  | isCurrent (name : Text)
  | scan (text language : Text) (name : Option Text)
  | resolve (token line : Text) (name : Option Text)

inductive Answer where
  | size (n : Nat)
  | index (i : Index)
  | same (b : Bool)
  | findings (fs : List Finding)
  | entry (e : Option Entry)
  /-- No index has this name. -/
  | unknown (name : Text)
  /-- The index could not be loaded. -/
  | failed (failure : Failure)

def find? (s : Session) (name : Text) : Option Snapshot :=
  s.named.lookup name

/-- Builds an index under a name, in the place of an earlier one. -/
def add (s : Session) (name : Text) (index : Index) : Session × Snapshot :=
  let snapshot := ⟨s.built + 1, index⟩
  ({ s with
      built := s.built + 1
      named := (name, snapshot) :: s.named.filter fun row => row.1 != name }, snapshot)

/-- Answers with the index under a name, or with the published one. -/
def onIndex (s : Session) (name : Option Text) (f : Snapshot → Answer) : Answer :=
  match name with
  | none => f s.current
  | some name =>
    match s.find? name with
    | some snapshot => f snapshot
    | none => .unknown name

/-- One step. A step that fails changes nothing. -/
def step (s : Session) : Step → Session × Answer
  | .build name index =>
    let (s, snapshot) := s.add name index
    (s, .size snapshot.index.size)
  | .rebuild name index =>
    let (s, snapshot) := s.add name index
    ({ s with current := snapshot }, .size snapshot.index.size)
  | .publish name =>
    match s.find? name with
    | some snapshot => ({ s with current := snapshot }, .size snapshot.index.size)
    | none => (s, .unknown name)
  | .load world sources severity =>
    match CommandLine.loadIndex world sources severity with
    | (_, .error failure) => (s, .failed failure)
    | (run, .ok _) =>
      let snapshot := ⟨s.built + 1, run.published⟩
      ({ s with built := s.built + 1, current := snapshot }, .size snapshot.index.size)
  | .current => (s, .index s.current.index)
  | .isCurrent name => (s, s.onIndex (some name) fun x => .same (x.moment = s.current.moment))
  | .scan text language name =>
    (s, s.onIndex name fun x => .findings (WebBaseline.scan text language x.index s.parse))
  | .resolve token line name =>
    (s, s.onIndex name fun x => .entry ((Lookup.resolve x.index token line).map (·.2)))

/-- The answers to steps, in order. -/
def run (s : Session) : List Step → List Answer
  | [] => []
  | step :: rest =>
    let (s, answer) := s.step step
    answer :: s.run rest

end Session

end WebBaseline
