import WebBaseline.Feature.Record
import WebBaseline.Index.Table

/-!
The compatibility index: what the scanners look up. It has one table for markup keys and one for script
keys.
-/

namespace WebBaseline

/-- What the index knows about a feature. -/
structure Entry where
  id : Text
  name : Text
  status : Status
  url : Option Text := none
  description : Option Text := none
  lowDate : Option Text := none
  highDate : Option Text := none
deriving DecidableEq, Repr

namespace Entry

def ofRecord (r : Feature.Record) : Entry where
  id := r.id
  name := r.name
  status := r.status
  url := r.url
  description := r.description
  lowDate := r.lowDate
  highDate := r.highDate

def isWidely (e : Entry) : Bool :=
  e.status = .widely

end Entry

/-- Both lookup tables. -/
structure Index where
  markup : Table Entry := []
  script : Table Entry := []
deriving DecidableEq, Repr

namespace Index

def size (index : Index) : Nat :=
  index.markup.length + index.script.length

end Index

end WebBaseline
