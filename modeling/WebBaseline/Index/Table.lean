import WebBaseline.Text.Basic

/-!
Tables from keys to values. A table lists each of its keys once, in the order in which they were
first put in. `insert` gives a key a new value, `insertNew` only a key that has none.
-/

namespace WebBaseline

abbrev Table (α : Type) := List (Text × α)

namespace Table

variable {α : Type}

def get? : Table α → Text → Option α
  | [], _ => none
  | (key, value) :: rest, k => if key = k then some value else get? rest k

/-- Puts `value` under `k`: in the place of an earlier value, or at the end. -/
def insert : Table α → Text → α → Table α
  | [], k, value => [(k, value)]
  | (key, old) :: rest, k, value =>
    if key = k then (key, value) :: rest else (key, old) :: insert rest k value

/-- Puts `value` under `k` unless the key has a value. -/
def insertNew (t : Table α) (k : Text) (value : α) : Table α :=
  match t.get? k with
  | some _ => t
  | none => t.insert k value

/-- Inserts the pairs in order, so that the last value of a key stays. -/
def insertAll (t : Table α) (pairs : List (Text × α)) : Table α :=
  pairs.foldl (fun t (k, value) => t.insert k value) t

/-- Inserts the pairs in order where a key has no value yet, so that the first one stays. -/
def insertAllNew (t : Table α) (pairs : List (Text × α)) : Table α :=
  pairs.foldl (fun t (k, value) => t.insertNew k value) t

@[simp] theorem get?_nil (k : Text) : get? ([] : Table α) k = none := rfl

theorem get?_insert (t : Table α) (k k' : Text) (value : α) :
    (t.insert k value).get? k' = if k = k' then some value else t.get? k' := by
  induction t with
  | nil => rfl
  | cons row rest ih =>
    obtain ⟨key, old⟩ := row
    by_cases h : key = k
    · subst h
      by_cases hk : key = k' <;> simp [insert, get?, hk]
    · by_cases hk : key = k'
      · subst hk
        simp [insert, get?, h, Ne.symm h]
      · simp [insert, get?, h, hk, ih]

theorem get?_insertNew (t : Table α) (k k' : Text) (value : α) :
    (t.insertNew k value).get? k' =
      if k = k' then some ((t.get? k).getD value) else t.get? k' := by
  unfold insertNew
  cases h : t.get? k with
  | none => simp [get?_insert]
  | some old =>
    by_cases hk : k = k'
    · subst hk
      simp [h]
    · simp [hk]

end Table

end WebBaseline
