import Mathlib.Data.List.Induction
import WebBaseline.Proofs.CommandLine.Loads
import WebBaseline.Session

/-! The state of a session, told from its steps.

What is published and what names stand for can be told from the steps that were taken: the last step that
publishes something decides (`Publishes`, `Last`), and so does the last one that builds under a name (`Keeps`).
`built_step`, `find?_step` and the two lemmas on `current` say all that one step does to the state, and
`follows_after` that the state is in accord with all steps. The moments of snapshots then count the indexes
that were built, so that a moment has one index only (`Made.eq`). -/
namespace WebBaseline.Session

/-! ### Histories -/

/-- The index that a step builds. -/
def Step.made? : Step → Option Index
  | .build _ index => some index
  | .rebuild _ index => some index
  | .load world sources severity =>
    match CommandLine.loadIndex world sources severity with
    | (_, .error _) => none
    | (run, .ok _) => some run.published
  | _ => none

/-- The indexes that steps build, in order, behind the empty one that is there at first. -/
def indexes (steps : List Step) : List Index :=
  {} :: steps.filterMap Step.made?

/-- After the steps `before`, none of the steps `rest` gives anything. -/
def Quiet (gives : List Step → Step → Snapshot → Prop) (before rest : List Step) : Prop :=
  ∀ middle step tail x, rest = middle ++ step :: tail → ¬ gives (before ++ middle) step x

/-- The last step that gives something gives this. -/
def Last (gives : List Step → Step → Snapshot → Prop) (steps : List Step) (x : Snapshot) : Prop :=
  ∃ before step rest, steps = before ++ step :: rest ∧ gives before step x ∧
    Quiet gives (before ++ [step]) rest

/-- The name that a step builds an index under, with the index. -/
def Step.kept? : Step → Option (Text × Index)
  | .build name index => some (name, index)
  | .rebuild name index => some (name, index)
  | _ => none

/-- A step builds a snapshot under a name. -/
def Keeps (name : Text) (before : List Step) (step : Step) (x : Snapshot) : Prop :=
  step.kept? = some (name, x.index) ∧ x.moment = (indexes before).length

/-- A step publishes a snapshot: one that it builds, or the one that a name stands for. -/
inductive Publishes (before : List Step) : Step → Snapshot → Prop
  | rebuild (name : Text) (index : Index) :
    Publishes before (.rebuild name index) ⟨(indexes before).length, index⟩
  | publish {name : Text} {x : Snapshot} (h : Last (Keeps name) before x) : Publishes before (.publish name) x
  | load {world : CommandLine.World} {sources : CommandLine.Sources} {severity : Option Text} {index : Index}
    (h : CommandLine.Loads world sources severity index) :
    Publishes before (.load world sources severity) ⟨(indexes before).length, index⟩

variable {gives : List Step → Step → Snapshot → Prop} {before steps rest : List Step} {step : Step}
  {x : Snapshot}

/-- The last one of steps is the one that is split off, or stands behind it. -/
theorem concat_eq_append_cons_iff {next : Step} :
    steps ++ [step] = before ++ next :: rest ↔
      rest = [] ∧ steps = before ∧ step = next ∨
        ∃ rest', rest = rest' ++ [step] ∧ steps = before ++ next :: rest' := by
  constructor
  · intro h
    rcases List.eq_nil_or_concat rest with rfl | ⟨rest', last, rfl⟩
    · obtain ⟨hsteps, hstep⟩ := List.append_inj' h rfl
      exact .inl ⟨rfl, hsteps, List.head_eq_of_cons_eq hstep⟩
    · rw [List.concat_eq_append, ← List.cons_append, ← List.append_assoc] at h
      obtain ⟨hsteps, hstep⟩ := List.append_inj' h rfl
      exact .inr ⟨rest', by rw [hstep, List.concat_eq_append], hsteps⟩
  · rintro (⟨rfl, rfl, rfl⟩ | ⟨rest', rfl, rfl⟩)
    · rfl
    · rw [List.append_assoc, List.cons_append]

theorem quiet_concat_iff :
    Quiet gives before (rest ++ [step]) ↔
      Quiet gives before rest ∧ ∀ x, ¬ gives (before ++ rest) step x := by
  constructor
  · intro h
    refine ⟨fun middle next tail x he => ?_, fun x => h rest step [] x rfl⟩
    exact h middle next (tail ++ [step]) x (by rw [he, List.append_assoc, List.cons_append])
  · rintro ⟨hrest, hstep⟩ middle next tail x he
    rcases concat_eq_append_cons_iff.mp he with ⟨-, rfl, rfl⟩ | ⟨tail', -, htail⟩
    · exact hstep x
    · exact hrest middle next tail' x htail

/-- With one more step, the last step that gives something is that one or, if it gives nothing, the one it
was. -/
theorem last_concat_iff :
    Last gives (steps ++ [step]) x ↔
      gives steps step x ∨ (∀ y, ¬ gives steps step y) ∧ Last gives steps x := by
  constructor
  · rintro ⟨before, next, rest, he, hgives, hquiet⟩
    rcases concat_eq_append_cons_iff.mp he with ⟨-, rfl, rfl⟩ | ⟨rest', rfl, rfl⟩
    · exact .inl hgives
    · obtain ⟨hrest, hstep⟩ := quiet_concat_iff.mp hquiet
      rw [List.append_assoc] at hstep
      exact .inr ⟨hstep, before, next, rest', rfl, hgives, hrest⟩
  · rintro (hgives | ⟨hstep, before, next, rest, rfl, hgives, hrest⟩)
    · refine ⟨steps, step, [], rfl, hgives, fun middle next tail x he => ?_⟩
      exact absurd he.symm (List.append_ne_nil_of_right_ne_nil _ (List.cons_ne_nil _ _))
    · refine ⟨before, next, rest ++ [step], by rw [List.append_assoc, List.cons_append], hgives, ?_⟩
      refine quiet_concat_iff.mpr ⟨hrest, ?_⟩
      rwa [List.append_assoc]

theorem not_last_nil : ¬ Last gives [] x := by
  rintro ⟨before, step, rest, he, -⟩
  exact List.append_ne_nil_of_right_ne_nil _ (List.cons_ne_nil _ _) he.symm

theorem indexes_append (steps rest : List Step) :
    indexes (steps ++ rest) = indexes steps ++ rest.filterMap Step.made? := by
  simp only [indexes, List.filterMap_append, List.cons_append]

/-! ### One step -/

theorem made?_load_eq_some_iff {world : CommandLine.World} {sources : CommandLine.Sources}
    {severity : Option Text} {index : Index} :
    (Step.load world sources severity).made? = some index ↔
      CommandLine.Loads world sources severity index := by
  rw [CommandLine.loads_iff, Step.made?]
  obtain ⟨run, result⟩ := CommandLine.loadIndex world sources severity
  cases result <;> simp

/-- A load publishes the index that it builds, or fails and changes nothing. -/
theorem step_load (s : Session) (world : CommandLine.World) (sources : CommandLine.Sources)
    (severity : Option Text) :
    (∃ index, (Step.load world sources severity).made? = some index ∧
      s.step (.load world sources severity) =
        ({ s with built := s.built + 1, current := ⟨s.built + 1, index⟩ }, .size index.size)) ∨
    (Step.load world sources severity).made? = none ∧
      ∃ f, s.step (.load world sources severity) = (s, .failed f) := by
  simp only [Session.step, Step.made?]
  obtain ⟨run, result⟩ := CommandLine.loadIndex world sources severity
  cases result with
  | error f => exact .inr ⟨rfl, f, rfl⟩
  | ok settings => exact .inl ⟨run.published, rfl, rfl⟩

theorem built_step (s : Session) (step : Step) :
    (s.step step).1.built = s.built + step.made?.toList.length := by
  cases step with
  | publish name =>
    simp only [Session.step]
    split <;> rfl
  | load world sources severity =>
    obtain ⟨index, hmade, hstep⟩ | ⟨hmade, f, hstep⟩ := s.step_load world sources severity <;>
      simp [hstep, hmade]
  | build | rebuild | current | isCurrent | scan | resolve => rfl

/-- The parser of a session stays. -/
theorem parse_step (s : Session) (step : Step) : (s.step step).1.parse = s.parse := by
  cases step with
  | publish name =>
    simp only [Session.step]
    split <;> rfl
  | load world sources severity =>
    obtain ⟨index, -, hstep⟩ | ⟨-, f, hstep⟩ := s.step_load world sources severity <;> rw [hstep]
  | build | rebuild | current | isCurrent | scan | resolve => rfl

theorem lookup_filter_ne {name other : Text} (h : name ≠ other) (rows : List (Text × Snapshot)) :
    (rows.filter fun row => row.1 != other).lookup name = rows.lookup name := by
  induction rows with
  | nil => rfl
  | cons row rest ih =>
    obtain ⟨key, x⟩ := row
    by_cases hkey : key = other
    · subst hkey
      simp [List.lookup_cons, beq_eq_false_iff_ne.mpr h, ih]
    · simp [List.lookup_cons, hkey, ih]

theorem find?_add (s : Session) (name other : Text) (index : Index) :
    (s.add other index).1.find? name =
      if name = other then some ⟨s.built + 1, index⟩ else s.find? name := by
  simp only [add, find?, List.lookup_cons]
  by_cases h : name = other
  · simp [h]
  · simp [beq_eq_false_iff_ne.mpr h, h, lookup_filter_ne h]

/-- A name stands for what a step builds under it, and otherwise for what it stood for. -/
theorem find?_step (s : Session) (step : Step) (name : Text) :
    (s.step step).1.find? name =
      match step.kept? with
      | some (other, index) => if name = other then some ⟨s.built + 1, index⟩ else s.find? name
      | none => s.find? name := by
  cases step with
  | build other index => exact s.find?_add name other index
  | rebuild other index => exact s.find?_add name other index
  | publish other =>
    simp only [Session.step]
    split <;> rfl
  | load world sources severity =>
    obtain ⟨index, -, hstep⟩ | ⟨-, f, hstep⟩ := s.step_load world sources severity <;>
    · rw [hstep]
      rfl
  | current | isCurrent | scan | resolve => rfl

/-- What a step publishes takes the place of what was published. -/
theorem current_step_of_publishes {s : Session} (hbuilt : s.built + 1 = (indexes before).length)
    (hnamed : ∀ name x, s.find? name = some x ↔ Last (Keeps name) before x)
    (h : Publishes before step x) : (s.step step).1.current = x := by
  cases h with
  | rebuild name index => simp only [Session.step, Session.add, hbuilt]
  | publish h => simp only [Session.step, (hnamed _ _).mpr h]
  | @load world sources severity index h =>
    have hmade := made?_load_eq_some_iff.mpr h
    obtain ⟨own, hown, hstep⟩ | ⟨hnone, f, hstep⟩ := s.step_load world sources severity
    · obtain rfl : own = index := Option.some.inj (hown.symm.trans hmade)
      simp only [hstep, hbuilt]
    · rw [hnone] at hmade
      cases hmade

theorem current_step_of_not_publishes {s : Session}
    (hnamed : ∀ name x, s.find? name = some x ↔ Last (Keeps name) before x)
    (h : ∀ x, ¬ Publishes before step x) : (s.step step).1.current = s.current := by
  cases step with
  | rebuild name index => exact absurd (.rebuild name index) (h _)
  | publish name =>
    simp only [Session.step]
    split
    · rename_i x hx
      exact absurd (.publish ((hnamed name x).mp hx)) (h x)
    · rfl
  | load world sources severity =>
    obtain ⟨index, hmade, hstep⟩ | ⟨hmade, f, hstep⟩ := s.step_load world sources severity
    · exact absurd (.load (made?_load_eq_some_iff.mp hmade)) (h _)
    · rw [hstep]
  | build | current | isCurrent | scan | resolve => rfl

/-! ### Whole sessions -/

/-- The session after steps. -/
def after (s : Session) (steps : List Step) : Session :=
  steps.foldl (fun s step => (s.step step).1) s

theorem after_concat (s : Session) (steps : List Step) (step : Step) :
    s.after (steps ++ [step]) = ((s.after steps).step step).1 :=
  List.foldl_append

theorem parse_after (s : Session) (steps : List Step) : (s.after steps).parse = s.parse := by
  induction steps generalizing s with
  | nil => rfl
  | cons step steps ih => exact (ih (s.step step).1).trans (s.parse_step step)

theorem run_append (s : Session) (steps rest : List Step) :
    s.run (steps ++ rest) = s.run steps ++ (s.after steps).run rest := by
  induction steps generalizing s with
  | nil => rfl
  | cons step steps ih => exact congrArg _ (ih (s.step step).1)

theorem length_run (s : Session) (steps : List Step) : (s.run steps).length = steps.length := by
  induction steps generalizing s with
  | nil => rfl
  | cons step steps ih => exact congrArg (· + 1) (ih (s.step step).1)

/-- The state of a session is what its steps say. -/
structure Follows (steps : List Step) (s : Session) : Prop where
  built : s.built + 1 = (indexes steps).length
  named : ∀ name x, s.find? name = some x ↔ Last (Keeps name) steps x
  current : Last Publishes steps s.current ∨ Quiet Publishes [] steps ∧ s.current = ⟨0, {}⟩

theorem follows_nil (parse : Script.Parser) : Follows [] { parse } where
  built := rfl
  named name x := iff_of_false nofun not_last_nil
  current := .inr ⟨fun middle step tail x he => absurd he (by simp), rfl⟩

theorem Follows.concat {s : Session} (h : Follows steps s) (step : Step) :
    Follows (steps ++ [step]) (s.step step).1 where
  built := by
    rw [built_step, indexes_append, List.length_append, ← h.built, Nat.add_right_comm]
    cases hmade : step.made? <;> simp [hmade]
  named name x := by
    rw [last_concat_iff, ← h.named, find?_step, h.built]
    cases hkept : step.kept? with
    | none => simp [Keeps, hkept]
    | some kept =>
      obtain ⟨other, index⟩ := kept
      by_cases hname : name = other
      · -- The step builds one snapshot under the name, and no other.
        subst hname
        have hkeeps : ∀ y, Keeps name steps step y ↔ ⟨(indexes steps).length, index⟩ = y := by
          rintro ⟨moment, own⟩
          simp [Keeps, hkept, and_comm, eq_comm]
        simp only [hkeeps, if_true, Option.some.injEq]
        exact ⟨.inl, fun h => h.resolve_right fun hnone => hnone.1 _ rfl⟩
      · simp [Keeps, hkept, hname, Ne.symm hname]
  current := by
    by_cases hnone : ∀ x, ¬ Publishes steps step x
    · rw [current_step_of_not_publishes h.named hnone]
      exact h.current.imp (fun hlast => last_concat_iff.mpr (.inr ⟨hnone, hlast⟩))
        fun ⟨hquiet, hempty⟩ => ⟨quiet_concat_iff.mpr ⟨hquiet, hnone⟩, hempty⟩
    · obtain ⟨x, hx⟩ := not_forall_not.mp hnone
      rw [current_step_of_publishes h.built h.named hx]
      exact .inl (last_concat_iff.mpr (.inl hx))

/-- The state of a session is at all times what the steps so far say. -/
theorem follows_after (parse : Script.Parser) (steps : List Step) : Follows steps (after { parse } steps) := by
  -- By the last step: what it gives depends on the steps before it.
  induction steps using List.reverseRecOn with
  | nil => exact follows_nil parse
  | append_singleton steps step ih =>
    rw [after_concat]
    exact ih.concat step

/-! ### Snapshots -/

/-- A snapshot that steps have built, or the empty one. -/
def Made (steps : List Step) (x : Snapshot) : Prop :=
  (indexes steps)[x.moment]? = some x.index

theorem Made.append (h : Made steps x) (rest : List Step) : Made (steps ++ rest) x := by
  obtain ⟨hlt, -⟩ := List.getElem?_eq_some_iff.mp h
  rw [Made, indexes_append, List.getElem?_append_left hlt]
  exact h

/-- An index is built at one moment. -/
theorem Made.eq {y : Snapshot} (hx : Made steps x) (hy : Made steps y) (h : x.moment = y.moment) : x = y := by
  rw [Made, h, hy] at hx
  cases x
  cases y
  cases h
  cases hx
  rfl

theorem made_of_made? (h : step.made? = some x.index) (hmoment : x.moment = (indexes before).length) :
    Made (before ++ step :: rest) x := by
  rw [Made, indexes_append, hmoment, List.getElem?_append_right (Nat.le_refl _), Nat.sub_self,
    List.filterMap_cons_some h]
  rfl

theorem made_of_last_keeps {name : Text} (h : Last (Keeps name) steps x) : Made steps x := by
  obtain ⟨before, step, rest, rfl, ⟨hkept, hmoment⟩, -⟩ := h
  refine made_of_made? ?_ hmoment
  cases step <;> cases hkept <;> rfl

theorem made_of_last_publishes (h : Last Publishes steps x) : Made steps x := by
  obtain ⟨before, step, rest, rfl, hpublishes, -⟩ := h
  cases hpublishes with
  | rebuild name index => exact made_of_made? rfl rfl
  | publish h =>
    -- It was built under its name before, and nothing that is built is lost.
    exact (made_of_last_keeps h).append _
  | load h => exact made_of_made? (made?_load_eq_some_iff.mpr h) rfl

/-- A snapshot that can be had from a session: the published one, or one that has a name. -/
def Offers (s : Session) (x : Snapshot) : Prop :=
  s.current = x ∨ ∃ name, s.find? name = some x

theorem Follows.made {s : Session} (h : Follows steps s) (hx : s.Offers x) : Made steps x := by
  rcases hx with rfl | ⟨name, hx⟩
  · rcases h.current with hlast | ⟨-, hempty⟩
    · exact made_of_last_publishes hlast
    · rw [hempty]
      rfl
  · exact made_of_last_keeps ((h.named name x).mp hx)

end WebBaseline.Session
