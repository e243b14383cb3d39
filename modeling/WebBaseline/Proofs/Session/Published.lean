import WebBaseline.Proofs.Session.History

/-! The published index of a session.

`published_snapshot` says which snapshot is published after any steps, that no step which fails changes
anything, that snapshots stay what they were, and that a scan without an index uses the published one. -/
namespace WebBaseline.Session

/-- An answer that says that a step failed. -/
def Answer.isFailure : Answer → Bool
  | unknown _ => true
  | failed _ => true
  | _ => false

/-- A step that fails changes nothing. -/
theorem step_of_isFailure {s : Session} {step : Step} (h : (s.step step).2.isFailure = true) :
    (s.step step).1 = s := by
  cases step with
  | build | rebuild => cases h
  | publish name =>
    simp only [Session.step] at h ⊢
    split at h
    · cases h
    · rfl
  | load world sources severity =>
    obtain ⟨index, -, hstep⟩ | ⟨-, f, hstep⟩ := s.step_load world sources severity
    · rw [hstep] at h
      cases h
    · rw [hstep]
  | current | isCurrent | scan | resolve => rfl

theorem isFailure_publish_iff (s : Session) (name : Text) :
    (s.step (.publish name)).2.isFailure = true ↔ s.find? name = none := by
  simp only [Session.step]
  split <;> simp_all [Answer.isFailure]

theorem isFailure_load_iff (s : Session) (world : CommandLine.World) (sources : CommandLine.Sources)
    (severity : Option Text) :
    (s.step (.load world sources severity)).2.isFailure = true ↔
      ∀ index, ¬ CommandLine.Loads world sources severity index := by
  simp only [← made?_load_eq_some_iff, ← Option.eq_none_iff_forall_ne_some]
  obtain ⟨index, hmade, hstep⟩ | ⟨hmade, f, hstep⟩ := s.step_load world sources severity <;>
    simp [hstep, hmade, Answer.isFailure]

/-- What can be had from a session after steps, and what a further step does to it. -/
structure Agrees (parse : Script.Parser) (steps : List Step) (s : Session) : Prop where
  /-- The last step that publishes something decides. Before that the empty index is published. -/
  current : Last Publishes steps s.current ∨ Quiet Publishes [] steps ∧ s.current = ⟨0, {}⟩
  publishes : ∀ step x, Publishes steps step x → (s.step step).1.current = x
  unchanged : ∀ step, (∀ x, ¬ Publishes steps step x) → (s.step step).1.current = s.current
  failed : ∀ step, (s.step step).2.isFailure → (s.step step).1 = s
  publish_fails : ∀ name,
    (s.step (.publish name)).2.isFailure ↔ ∀ x, ¬ Last (Keeps name) steps x
  load_fails : ∀ world sources severity,
    (s.step (.load world sources severity)).2.isFailure ↔
      ∀ index, ¬ CommandLine.Loads world sources severity index
  build : ∀ name index, (s.step (.build name index)).1.current = s.current
  scan : ∀ text language name, (s.step (.scan text language name)).1 = s
  resolve : ∀ token line name, (s.step (.resolve token line name)).1 = s
  /-- Without a name, a scan is one with the published index. -/
  findings : ∀ text language rest,
    (run { parse } (steps ++ .scan text language none :: rest))[steps.length]? =
      some (.findings (WebBaseline.scan text language s.current.index parse))
  /-- A snapshot holds what was built at its moment, and will always be the only one of that moment. -/
  made : ∀ x, s.Offers x → Made steps x
  kept : ∀ x rest y, s.Offers x → (s.after rest).Offers y → x.moment = y.moment → x = y
  same : ∀ name x, s.find? name = some x →
    ((s.step (.isCurrent name)).2 = .same true ↔ x = s.current)

theorem getElem?_run (s : Session) (steps : List Step) (step : Step) (rest : List Step) :
    (s.run (steps ++ step :: rest))[steps.length]? = some ((s.after steps).step step).2 := by
  rw [run_append, List.getElem?_append_right (Nat.le_of_eq (length_run s steps)), length_run, Nat.sub_self]
  rfl

theorem agrees_after (parse : Script.Parser) (steps : List Step) :
    Agrees parse steps (after { parse } steps) := by
  have hfollows := follows_after parse steps
  have hparse : (after { parse } steps).parse = parse := parse_after { parse } steps
  have hkept : ∀ x rest y, (after { parse } steps).Offers x → ((after { parse } steps).after rest).Offers y →
      x.moment = y.moment → x = y := by
    intro x rest y hx hy h
    have hrest : (after { parse } steps).after rest = after { parse } (steps ++ rest) :=
      List.foldl_append.symm
    rw [hrest] at hy
    exact ((hfollows.made hx).append rest).eq ((follows_after parse _).made hy) h
  exact {
    current := hfollows.current
    publishes := fun step x => current_step_of_publishes hfollows.built hfollows.named
    unchanged := fun step => current_step_of_not_publishes hfollows.named
    failed := fun step => step_of_isFailure
    publish_fails := fun name => by
      simp only [isFailure_publish_iff, ← hfollows.named, Option.eq_none_iff_forall_ne_some]
    load_fails := isFailure_load_iff _
    build := fun name index => rfl
    scan := fun text language name => rfl
    resolve := fun token line name => rfl
    findings := fun text language rest => by
      rw [getElem?_run, Session.step, hparse]
      rfl
    made := fun x => hfollows.made
    kept := hkept
    same := fun name x hx => by
      simp only [Session.step, onIndex, hx, Answer.same.injEq, decide_eq_true_eq]
      exact ⟨hkept x [] _ (.inr ⟨name, hx⟩) (.inl rfl), fun he => by rw [he]⟩ }

/-- A load at the start of a session publishes what a command does. -/
theorem current_load (parse : Script.Parser) (world : CommandLine.World) (sources : CommandLine.Sources)
    (severity : Option Text) :
    (after { parse } [.load world sources severity]).current.index =
      (CommandLine.loadIndex world sources severity).1.published := by
  cases hload : CommandLine.loadIndex world sources severity with
  | mk run result =>
    cases result with
    | error f =>
      have hempty := CommandLine.published_of_error (congrArg Prod.snd hload)
      rw [hload] at hempty
      simp only [after, List.foldl_cons, List.foldl_nil, Session.step, hload]
      exact hempty.symm
    | ok settings => simp [after, Session.step, hload]

/-- **The published snapshot.** After any steps, that snapshot is published which the last step that could
publish something has published. Other steps leave it as it is, and those that fail leave everything. A
snapshot keeps what was built for it, and it is told from all others. The commands publish as loads do. So it is
whatever parses the scripts. -/
theorem published_snapshot (parse : Script.Parser) :
    (∀ steps, Agrees parse steps (after { parse } steps)) ∧
    ∀ world : CommandLine.World,
      (∀ request, (CommandLine.runScan world request).published =
        (after { parse } [.load world request.sources request.severity]).current.index) ∧
      ∀ request token, (CommandLine.showToken world request token).published =
        (after { parse } [.load world request.sources none]).current.index := by
  refine ⟨agrees_after parse, fun world => ⟨fun request => ?_, fun request token => ?_⟩⟩
  · rw [CommandLine.published_runScan, current_load]
  · rw [CommandLine.published_showToken, current_load]

/-- Two equal indexes, the second of them published, and a load of which only the first source is there. -/
theorem published_snapshot_equal :
    let s := after {} [.build "a" {}, .rebuild "b" {}]
    let world : CommandLine.World :=
      { files := .ofList "/work" [("d.json", .file (Text.Utf8.encode "\x7b\x7d"))] }
    let load (compat : Option Text) : Step := .load world ⟨"d.json", compat, [], none⟩ none
    (s.step (.isCurrent "a")).2 ≠ .same true ∧ (s.step (.isCurrent "b")).2 = .same true ∧
    (s.step (load none)).2.isFailure = false ∧ (s.step (load (some "c.json"))).2.isFailure = true ∧
    (s.step (load (some "c.json"))).1 = s := by
  intro s world load
  have h := (published_snapshot Script.parse?).1 [.build "a" {}, .rebuild "b" {}]
  have hfails : (s.step (load (some "c.json"))).2.isFailure = true := by decide +kernel
  refine ⟨fun hsame => ?_, (h.same "b" ⟨2, {}⟩ rfl).mpr rfl, by decide +kernel, hfails, h.failed _ hfails⟩
  have hmoment := congrArg Snapshot.moment ((h.same "a" ⟨1, {}⟩ rfl).mp hsame)
  cases hmoment

end WebBaseline.Session
