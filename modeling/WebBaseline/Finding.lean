import WebBaseline.Index.Basic
import WebBaseline.Text.Line

/-!
Findings: the places of a source that use a feature which is not widely available.
-/

namespace WebBaseline

/-- A stretch of a text between two positions. -/
structure Range where
  start : Position
  stop : Position
deriving DecidableEq, Repr

namespace Range

/-- A stretch of one line, between two columns. -/
def onLine (line start stop : Nat) : Range :=
  ⟨⟨line, start⟩, ⟨line, stop⟩⟩

def ofOffsets (s : Text) (start stop : Nat) : Range :=
  ⟨s.position start, s.position stop⟩

end Range

/-- A use of a feature: where it stands, how well the feature is supported, what it is called and the
key under which the index holds it. -/
structure Finding where
  range : Range
  status : Status
  label : Text
  key : Text
deriving DecidableEq, Repr

namespace Finding

/-- The finding for an entry of the index. A construct that the index does not know, or that is widely
available, gives none. An entry without a name is called `fallback`. -/
def of? (entry : Option Entry) (key : Text) (range : Range) (fallback : Text) : Option Finding :=
  match entry with
  | none => none
  | some e =>
    if e.isWidely then none
    else some ⟨range, e.status, if e.name.isEmpty then fallback else e.name, key⟩

end Finding

end WebBaseline
