import WebBaseline.Index.Basic

/-!
Building the index from a dataset. Every path of every record claims its lookup keys, and where two
claim the same key the later one gets it. A property page fills its key only if nothing else has
claimed it, and there the first one does. Last, the core properties are pinned to widely available.
-/

namespace WebBaseline.Index

/-- The paths of the records, each with the entry that it stands for. -/
def claims (records : List Feature.Record) : List (Text × Entry) :=
  records.flatMap fun r => r.paths.map fun path => (path, Entry.ofRecord r)

/-- The keys that the markup paths claim, in order. -/
def markupClaims (claims : List (Text × Entry)) : List (Text × Entry) :=
  claims.flatMap fun (path, entry) =>
    if Feature.isScriptPath path then [] else (Feature.markupKeys path).map (·, entry)

/-- The keys that the pages of the markup paths claim, in order. -/
def pageClaims (claims : List (Text × Entry)) : List (Text × Entry) :=
  claims.filterMap fun (path, entry) =>
    if Feature.isScriptPath path then none else (Feature.pageKey path entry.url).map (·, entry)

def scriptClaims (claims : List (Text × Entry)) : List (Text × Entry) :=
  claims.flatMap fun (path, entry) =>
    if Feature.isScriptPath path then (Feature.scriptKeys path).map (·, entry) else []

/-- The entry of a core property: widely available, documented on its own page. -/
def pinned (name : Text) : Option Entry → Entry
  | none => { id := name, name, status := .widely, url := some (Feature.cssPage name) }
  | some entry => { entry with status := .widely, url := some (Feature.cssPage name) }

/-- Whether pinning `name` changes the table. -/
def needsPin (markup : Table Entry) (name : Text) : Bool :=
  match markup.get? name with
  | none => true
  | some entry => !entry.isWidely

def pin (markup : Table Entry) (name : Text) : Table Entry :=
  if needsPin markup name then markup.insert name (pinned name (markup.get? name)) else markup

def coreNames (core : List Text) : List Text :=
  core.filterMap fun raw => (Text.stripped? raw).map Text.lower

/-- The index of the records, with core properties pinned. -/
def ofRecords (records : List Feature.Record) (core : List Text) : Index :=
  let claims := claims records
  let claimed := Table.insertAll [] (markupClaims claims)
  let filled := Table.insertAllNew claimed (pageClaims claims)
  { markup := (coreNames core).foldl pin filled
    script := Table.insertAll [] (scriptClaims claims) }

def build (render : Feature.Renderer) (table : Json) (dataset : Feature.Dataset)
    (core : List Text) : Index :=
  ofRecords (Feature.records render table dataset) core

/-- The core properties that are pinned, in order. -/
def pinnedNames (markup : Table Entry) : List Text → List Text
  | [] => []
  | name :: names =>
    if needsPin markup name then name :: pinnedNames (pin markup name) names
    else pinnedNames markup names

end WebBaseline.Index
