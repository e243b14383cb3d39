import WebBaseline.Index.Table

/-! What a table holds after a run of insertions.

A run of pairs gives a key the values in `valuesOf`, in order. `insertAll` leaves the last of them under
the key (`get?_insertAll`), `insertAllNew` the first, and only where the key had no value
(`get?_insertAllNew`). Both keep a table that lists each of its keys once (`Distinct`) such a table. -/
namespace WebBaseline.Table

variable {α : Type}

/-- The values that `pairs` give the key `k`, in order. -/
def valuesOf (pairs : List (Text × α)) (k : Text) : List α :=
  (pairs.filter fun row => row.1 = k).map (·.2)

/-- Each key is listed once. -/
def Distinct (t : Table α) : Prop :=
  (t.map (·.1)).Nodup

theorem valuesOf_cons (k' k : Text) (value : α) (rest : List (Text × α)) :
    valuesOf ((k', value) :: rest) k =
      if k' = k then value :: valuesOf rest k else valuesOf rest k := by
  by_cases h : k' = k <;> simp [valuesOf, h]

theorem valuesOf_append (a b : List (Text × α)) (k : Text) :
    valuesOf (a ++ b) k = valuesOf a k ++ valuesOf b k := by
  simp [valuesOf]

/-- Items that give a key no values can be left out. -/
theorem valuesOf_leaveOut {β : Type} {pairs : β → List (Text × α)} {mid : List β} {k : Text}
    (h : valuesOf (mid.flatMap pairs) k = []) (before after : List β) :
    valuesOf ((before ++ mid ++ after).flatMap pairs) k =
      valuesOf ((before ++ after).flatMap pairs) k := by
  simp only [List.flatMap_append, valuesOf_append, h, List.append_nil]

theorem valuesOf_ne_nil_iff {pairs : List (Text × α)} {k : Text} :
    valuesOf pairs k ≠ [] ↔ ∃ row ∈ pairs, row.1 = k := by
  simp [valuesOf, List.filter_eq_nil_iff]

/-! ### Lookups -/

/-- The last value of a key stays. -/
theorem get?_insertAll (t : Table α) (pairs : List (Text × α)) (k : Text) :
    (t.insertAll pairs).get? k = (valuesOf pairs k).getLast?.or (t.get? k) := by
  induction pairs generalizing t with
  | nil => rfl
  | cons row rest ih =>
    obtain ⟨k', value⟩ := row
    have step : t.insertAll ((k', value) :: rest) = (t.insert k' value).insertAll rest := rfl
    rw [step, ih, get?_insert, valuesOf_cons]
    by_cases h : k' = k
    · rw [if_pos h, if_pos h, List.getLast?_cons]
      cases (valuesOf rest k).getLast? <;> rfl
    · rw [if_neg h, if_neg h]

/-- The value a key had stays, or else the first one it is given. -/
theorem get?_insertAllNew (t : Table α) (pairs : List (Text × α)) (k : Text) :
    (t.insertAllNew pairs).get? k = (t.get? k).or (valuesOf pairs k).head? := by
  induction pairs generalizing t with
  | nil => exact Option.or_none.symm
  | cons row rest ih =>
    obtain ⟨k', value⟩ := row
    have step : t.insertAllNew ((k', value) :: rest) = (t.insertNew k' value).insertAllNew rest := rfl
    rw [step, ih, get?_insertNew, valuesOf_cons]
    by_cases h : k' = k
    · subst h
      rw [if_pos rfl, if_pos rfl, List.head?_cons]
      cases t.get? k' <;> rfl
    · rw [if_neg h, if_neg h]

/-! ### Keys -/

theorem keys_insert (t : Table α) (k : Text) (value : α) :
    (t.insert k value).map (·.1) =
      if k ∈ t.map (·.1) then t.map (·.1) else t.map (·.1) ++ [k] := by
  induction t with
  | nil => simp [insert]
  | cons row rest ih =>
    obtain ⟨key, old⟩ := row
    by_cases h : key = k
    · simp [insert, h]
    · have hk : ¬ k = key := fun he => h he.symm
      simp only [insert, if_neg h, List.map_cons, ih, List.mem_cons, hk, false_or]
      split <;> rfl

theorem distinct_insert {t : Table α} (h : t.Distinct) (k : Text) (value : α) :
    (t.insert k value).Distinct := by
  unfold Distinct
  rw [keys_insert]
  split
  · exact h
  · rename_i hk
    exact List.nodup_append.mpr ⟨h, by simp, fun a ha b hb hab => by
      rw [List.mem_singleton.mp hb] at hab
      exact hk (hab ▸ ha)⟩

theorem distinct_insertNew {t : Table α} (h : t.Distinct) (k : Text) (value : α) :
    (t.insertNew k value).Distinct := by
  unfold insertNew
  split
  · exact h
  · exact distinct_insert h k value

theorem distinct_insertAll {t : Table α} (h : t.Distinct) (pairs : List (Text × α)) :
    (t.insertAll pairs).Distinct := by
  induction pairs generalizing t with
  | nil => exact h
  | cons row rest ih => exact ih (distinct_insert h row.1 row.2)

theorem distinct_insertAllNew {t : Table α} (h : t.Distinct) (pairs : List (Text × α)) :
    (t.insertAllNew pairs).Distinct := by
  induction pairs generalizing t with
  | nil => exact h
  | cons row rest ih => exact ih (distinct_insertNew h row.1 row.2)

end WebBaseline.Table
