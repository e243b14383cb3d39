import WebBaseline.Failure

/-! Steps that can fail.

There are two ways to say what a step comes to. `Decides` has all that it fails with, and what its value is like.
`FailsBy` tells failures of its own, of which only the kind is said, from those that it passes on, which are
known one by one. Steps join by `Decides.bind` and `FailsBy.bind`. -/
namespace WebBaseline

theorem bind_eq_ok_iff {ε α β : Type} {result : Except ε α} {next : α → Except ε β} {b : β} :
    result.bind next = .ok b ↔ ∃ a, result = .ok a ∧ next a = .ok b := by
  cases result <;> simp [Except.bind]

theorem map_eq_ok_iff {ε α β : Type} {result : Except ε α} {f : α → β} {b : β} :
    result.map f = .ok b ↔ ∃ a, result = .ok a ∧ f a = b := by
  cases result <;> simp [Except.map]

theorem mapError_eq_ok_iff {ε ε' α : Type} {result : Except ε α} {f : ε → ε'} {a : α} :
    result.mapError f = .ok a ↔ result = .ok a := by
  cases result with
  | error e => exact iff_of_false nofun nofun
  | ok b =>
    rw [show (Except.ok b).mapError f = .ok b from rfl, Except.ok.injEq, Except.ok.injEq]

/-! ### What a step comes to -/

/-- The result is a failure just if that is `bad`, and a value is `good`. -/
structure Decides {α : Type} (bad : Failure → Prop) (good : α → Prop) (result : Except Failure α) : Prop where
  error_iff : ∀ f, result = .error f ↔ bad f
  of_ok : ∀ value, result = .ok value → good value

namespace Decides

variable {α β : Type} {bad bad' : Failure → Prop} {good : α → Prop} {result : Except Failure α}

theorem ok {value : α} (h : good value) : Decides (fun _ => False) good (.ok value) :=
  ⟨fun _ => iff_of_false nofun id, fun _ heq => by cases heq; exact h⟩

/-- A step with one fault. -/
theorem ok_of_not {fault : Prop} {f : Failure} {value : α} (hfault : ¬ fault) (h : good value) :
    Decides (fun g => g = f ∧ fault) good (.ok value) :=
  ⟨fun _ => iff_of_false nofun fun hg => hfault hg.2, (ok h).of_ok⟩

theorem error_of {fault : Prop} {f : Failure} (hfault : fault) :
    Decides (fun g => g = f ∧ fault) good (.error f : Except Failure α) :=
  ⟨fun _ => by rw [Except.error.injEq, eq_comm, and_iff_left hfault], nofun⟩

theorem congr {good' : α → Prop} (h : Decides bad good result) (hbad : ∀ f, bad f ↔ bad' f)
    (hgood : ∀ value, good value → good' value) : Decides bad' good' result :=
  ⟨fun f => (h.error_iff f).trans (hbad f), fun value hv => hgood value (h.of_ok value hv)⟩

theorem exists_error_iff (h : Decides bad good result) : (∃ f, result = .error f) ↔ ∃ f, bad f :=
  exists_congr h.error_iff

theorem not_bad_of_ok (h : Decides bad good result) {value : α} (hvalue : result = .ok value) (f : Failure) :
    ¬ bad f := fun hf => by
  cases hvalue.symm.trans ((h.error_iff f).mpr hf)

theorem exists_ok (h : Decides bad good result) (hnone : ∀ f, ¬ bad f) :
    ∃ value, result = .ok value ∧ good value := by
  cases hresult : result with
  | error f => exact absurd ((h.error_iff f).mp hresult) (hnone f)
  | ok value => exact ⟨value, rfl, h.of_ok value hresult⟩

/-- The second step fails where the first one has not. -/
theorem bind {next : α → Except Failure β} {good' : β → Prop} (h : Decides bad good result)
    (hnext : ∀ value, good value → Decides bad' good' (next value)) :
    Decides (fun f => bad f ∨ (∀ g, ¬ bad g) ∧ bad' f) good' (result.bind next) := by
  cases hresult : result with
  | error f =>
    have hbad : bad f := (h.error_iff f).mp hresult
    have hbind (g : Failure) : (Except.error f).bind next = .error g ↔ bad g := by
      rw [← h.error_iff g, hresult, Except.bind, Except.error.injEq, Except.error.injEq]
    refine ⟨fun g => (hbind g).trans ?_, nofun⟩
    exact ⟨.inl, fun hg => hg.resolve_right fun hnone => hnone.1 f hbad⟩
  | ok value =>
    have hvalue := hnext value (h.of_ok value hresult)
    have hnone := h.not_bad_of_ok hresult
    refine ⟨fun f => (hvalue.error_iff f).trans ?_, hvalue.of_ok⟩
    exact ⟨fun hf => .inr ⟨hnone, hf⟩, fun hf => (hf.resolve_left (hnone f)).2⟩

theorem map {f : α → β} {good' : β → Prop} (h : Decides bad good result)
    (hgood : ∀ value, good value → good' (f value)) :
    Decides bad good' (result.bind fun value => .ok (f value)) :=
  (h.bind fun value hvalue => .ok (hgood value hvalue)).congr (fun g => by simp) fun _ => id

end Decides

/-! ### What a step passes on -/

/-- The only failures are those of `own`, and those that are passed on, which come up just where they are
`met`. -/
structure FailsBy {α : Type} (own met : Failure → Prop) (result : Except Failure α) : Prop where
  own_or_met : ∀ f, result = .error f → own f ∨ met f
  of_met : ∀ f, met f → result = .error f

namespace FailsBy

variable {α β : Type} {own own' met met' : Failure → Prop} {result : Except Failure α}

theorem ok (value : α) : FailsBy own (fun _ => False) (.ok value) :=
  ⟨nofun, nofun⟩

theorem error {f : Failure} (h : own f) : FailsBy own (fun _ => False) (.error f : Except Failure α) :=
  ⟨fun _ heq => .inl (by cases heq; exact h), nofun⟩

theorem congr (h : FailsBy own met result) (hmet : ∀ f, met f ↔ met' f) : FailsBy own met' result :=
  ⟨fun f hf => (h.own_or_met f hf).imp_right (hmet f).mp, fun f hf => h.of_met f ((hmet f).mpr hf)⟩

/-- The second step meets what it meets if the first one comes to a value. -/
theorem bind {next : α → Except Failure β} {met' : α → Failure → Prop} (h : FailsBy own met result)
    (hnext : ∀ value, result = .ok value → FailsBy own (met' value) (next value)) :
    FailsBy own (fun f => met f ∨ ∃ value, result = .ok value ∧ met' value f) (result.bind next) := by
  cases hresult : result with
  | error f =>
    refine ⟨fun f' hf' => ?_, fun f' hf' => ?_⟩
    · cases hf'
      exact (h.own_or_met f hresult).imp_right .inl
    · rcases hf' with hf' | ⟨value, hvalue, -⟩
      · rw [← hresult, h.of_met f' hf']
        rfl
      · cases hvalue
  | ok value =>
    have hvalue := hnext value hresult
    refine ⟨fun f hf => (hvalue.own_or_met f hf).imp_right fun hf => .inr ⟨value, rfl, hf⟩, fun f hf => ?_⟩
    rcases hf with hf | ⟨value', hvalue', hf⟩
    · cases (h.of_met f hf).symm.trans hresult
    · cases hvalue'
      exact hvalue.of_met f hf

/-- A second step that meets nothing. -/
theorem bind_own {next : α → Except Failure β} (h : FailsBy own met result)
    (hnext : ∀ value, FailsBy own (fun _ => False) (next value)) : FailsBy own met (result.bind next) :=
  (h.bind fun value _ => hnext value).congr fun f => by simp

theorem map (h : FailsBy own met result) (f : α → β) : FailsBy own met (result.map f) := by
  have hmap : result.map f = result.bind fun value => .ok (f value) := by cases result <;> rfl
  rw [hmap]
  exact h.bind_own fun value => .ok (f value)

end FailsBy

/-! ### Readings -/

namespace Reading

variable {α : Type} {refusal : Text → Failure}

theorem result_eq_ok_iff {reading : Reading α} {value : α} :
    reading.result refusal = .ok value ↔ reading = .value value := by
  cases reading <;> simp [result]

end Reading

end WebBaseline
