/-!
The dialects of scripts: with or without types, and with or without elements.
-/

namespace WebBaseline.Script

/-- A dialect of scripts. -/
structure Dialect where
  /-- Whether types may be written. -/
  typed : Bool
  /-- Whether markup elements are expressions. -/
  elements : Bool
deriving DecidableEq, Repr

end WebBaseline.Script
