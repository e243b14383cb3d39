import WebBaseline.Text.Integer

/-!
What readers of documents come to. Besides a value and a refusal there is a third way: a reader can break,
with a failure that is none of its format. Whole numbers with too many digits break it, and so does nesting
that is too deep.
-/

namespace WebBaseline

/-- A failure that is not expected where it comes up, by its name. -/
structure Breakdown where
  name : Text
  message : Text
deriving DecidableEq, Repr

namespace Breakdown

/-- A whole number of this many digits cannot be read. -/
def digitsRead (count : Nat) : Breakdown where
  name := "ValueError"
  message := "Exceeds the limit (" ++ Text.ofNat Text.maxDigits ++
    " digits) for integer string conversion: value has " ++ Text.ofNat count ++
    " digits; use sys.set_int_max_str_digits() to increase the limit"

/-- A whole number has too many digits to be written. -/
def digitsWritten : Breakdown where
  name := "ValueError"
  message := "Exceeds the limit (" ++ Text.ofNat Text.maxDigits ++
    " digits) for integer string conversion; use sys.set_int_max_str_digits() to increase the limit"

/-- Values are nested too deep; `activity` says what was done with them. -/
def nesting (activity : Text) : Breakdown where
  name := "RecursionError"
  message := "maximum recursion depth exceeded" ++ activity

/-- A path has a null character. -/
def nullCharacter : Breakdown where
  name := "ValueError"
  message := "embedded null byte"

end Breakdown

inductive Reading (α : Type) where
  | value (v : α)
  /-- The document is not in the reader's format. -/
  | refused (reason : Text)
  | broken (breakdown : Breakdown)

/-- What breaks under this name counts as refused. -/
def Reading.refusing {α : Type} (name : Text) : Reading α → Reading α
  | broken breakdown =>
    if breakdown.name = name then .refused breakdown.message else .broken breakdown
  | reading => reading

/-- How deep values can be nested where nothing else is known. What is left of it depends on the calls that a
reader or writer is used in. -/
def usualDepth : Nat := 993

end WebBaseline
