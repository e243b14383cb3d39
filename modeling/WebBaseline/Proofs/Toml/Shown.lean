import WebBaseline.Proofs.Step
import WebBaseline.Toml.Basic

/-! Which values can be written.

A value is written if its whole numbers have few enough digits and it is not nested deeper than there is room for
(`Fits`, `exists_shown_iff`). -/
namespace WebBaseline.Toml

/-- A value can be written within a depth. -/
inductive Fits : (depth : Nat) → Toml → Prop
  | bool {depth b} : Fits (depth + 1) (.bool b)
  | int {depth n} : n.natAbs < Nat.pow 10 Text.maxDigits → Fits (depth + 1) (.int n)
  | real {depth x} : Fits (depth + 1) (.real x)
  | str {depth s} : Fits (depth + 1) (.str s)
  | date {depth d} : Fits (depth + 1) (.date d)
  | time {depth t} : Fits (depth + 1) (.time t)
  | moment {depth d t offset} : zoneDepth offset ≤ depth → Fits (depth + 1) (.moment d t offset)
  | arr {depth items} : (∀ item ∈ items, Fits depth item) → Fits (depth + 1) (.arr items)
  | table {depth members} : (∀ member ∈ members, Fits depth member.2) → Fits (depth + 1) (.table members)

/-- Every value takes one unit of the depth. -/
theorem exists_inner_iff {write : Nat → Except Breakdown Text} {value : Toml}
    (h : ∀ depth, (∃ text, write depth = .ok text) ↔ Fits (depth + 1) value) (depth : Nat) :
    (∃ text, inner depth write = .ok text) ↔ Fits depth value := by
  cases depth with
  | zero => exact iff_of_false (fun ⟨_, htext⟩ => by cases htext) nofun
  | succ depth => exact h depth

theorem exists_ite_iff {p : Prop} [Decidable p] {b : Breakdown} {text : Text} :
    (∃ t, (if p then .error b else .ok text : Except Breakdown Text) = .ok t) ↔ ¬ p := by
  by_cases h : p <;> simp [h]

theorem exists_map_iff {α β : Type} {result : Except Breakdown α} {f : α → β} :
    (∃ b, (result >>= fun a => pure (f a)) = .ok b) ↔ ∃ a, result = .ok a := by
  cases result <;> simp [bind, Except.bind, pure, Except.pure]

/-- The first of a row is written, and then the rest. -/
theorem exists_cons_iff {first : Except Breakdown Text} {rest : Except Breakdown (List Text)} {f : Text → Text} :
    (∃ texts, (do let text ← first; return f text :: (← rest)) = Except.ok (ε := Breakdown) texts) ↔
      (∃ text, first = .ok text) ∧ ∃ texts, rest = .ok texts := by
  cases first <;> cases rest <;> simp [bind, Except.bind, pure, Except.pure]

mutual

/-- A value is written just if it fits. -/
theorem exists_shown_iff (depth : Nat) :
    (value : Toml) → ((∃ text, value.shown depth = .ok text) ↔ Fits depth value)
  | .bool b => exists_inner_iff (fun _ => iff_of_true ⟨_, rfl⟩ .bool) depth
  | .int n => exists_inner_iff (fun depth => by
      rw [exists_ite_iff, Text.isTooLong, decide_eq_true_eq, Nat.not_le]
      exact ⟨.int, fun h => by cases h; assumption⟩) depth
  | .real x => exists_inner_iff (fun _ => iff_of_true ⟨_, rfl⟩ .real) depth
  | .str s => exists_inner_iff (fun _ => iff_of_true ⟨_, rfl⟩ .str) depth
  | .date d => exists_inner_iff (fun _ => iff_of_true ⟨_, rfl⟩ .date) depth
  | .time t => exists_inner_iff (fun _ => iff_of_true ⟨_, rfl⟩ .time) depth
  | .moment d t offset => exists_inner_iff (fun depth => by
      rw [exists_ite_iff, Nat.not_lt]
      exact ⟨.moment, fun h => by cases h; assumption⟩) depth
  | .arr items => exists_inner_iff (fun depth => by
      rw [exists_map_iff, exists_itemsShown_iff depth items]
      exact ⟨.arr, fun h => by cases h; assumption⟩) depth
  | .table members => exists_inner_iff (fun depth => by
      rw [exists_map_iff, exists_membersShown_iff depth members]
      exact ⟨.table, fun h => by cases h; assumption⟩) depth

theorem exists_itemsShown_iff (depth : Nat) :
    (items : List Toml) → ((∃ texts, itemsShown depth items = .ok texts) ↔ ∀ item ∈ items, Fits depth item)
  | [] => iff_of_true ⟨_, rfl⟩ nofun
  | item :: rest => by
    rw [List.forall_mem_cons, ← exists_shown_iff depth item, ← exists_itemsShown_iff depth rest]
    exact exists_cons_iff

theorem exists_membersShown_iff (depth : Nat) :
    (members : List (Text × Toml)) →
      ((∃ texts, membersShown depth members = .ok texts) ↔ ∀ member ∈ members, Fits depth member.2)
  | [] => iff_of_true ⟨_, rfl⟩ nofun
  | (key, value) :: rest => by
    rw [List.forall_mem_cons, ← exists_shown_iff depth value, ← exists_membersShown_iff depth rest]
    exact exists_cons_iff

end

end WebBaseline.Toml
