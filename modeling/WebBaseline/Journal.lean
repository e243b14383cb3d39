import WebBaseline.Index.Build
import WebBaseline.Text.Quoted

/-!
The journal: what the program notes while it works, for whoever looks for a fault in it. Every note goes
to a channel. Two notes are made only if the journal was asked for.
-/

namespace WebBaseline

/-- The parts of the program that make notes. -/
inductive Channel where
  | program
  | dataset
  | index
  | download
  | script
deriving DecidableEq, Repr

def Channel.name : Channel → Text
  | .program => "baseline_lite"
  | .dataset => "baseline_lite.dataset"
  | .index => "baseline_lite.index"
  | .download => "baseline_lite.http"
  | .script => "baseline_lite.scanners.js"

inductive Note where
  /-- A rich description could not be rendered. -/
  | notRendered
  /-- A dataset entry is no feature. -/
  | skipped (id : Text)
  | skippedCount (n : Nat)
  /-- A core property was pinned. -/
  | pinned (name : Text)
  /-- An index was built: the numbers of records and of keys in both tables. -/
  | indexed (records markup script : Nat)
  /-- A connection failed for the first time. -/
  | retrying (url : Text)
  | downloaded (bytes : Nat) (url : Text)
  /-- The parser for scripts could not be used. -/
  | notParsed (language : Text)
deriving DecidableEq, Repr

namespace Note

def channel : Note → Channel
  | notRendered => .dataset
  | skipped _ => .dataset
  | skippedCount _ => .program
  | pinned _ => .index
  | indexed .. => .program
  | retrying _ => .download
  | downloaded .. => .download
  | notParsed _ => .script

def message : Note → Text
  | notRendered => "Unable to render description_html"
  | skipped id => "Skipping dataset record " ++ Text.Quoted.encode id
  | skippedCount n => "Dataset adapter skipped " ++ Text.ofNat n ++ " records"
  | pinned name => "Pinned core property " ++ Text.Quoted.encode name ++ " to widely available"
  | indexed records markup script =>
    "Indexed " ++ Text.ofNat records ++ " features into " ++ Text.ofNat markup ++ " markup and " ++
      Text.ofNat script ++ " script keys"
  | retrying url => "Connection to " ++ url ++ " failed, retrying"
  | downloaded bytes url => "Downloaded " ++ Text.ofNat bytes ++ " bytes from " ++ url
  | notParsed language => "tree-sitter failed to parse " ++ language ++ " source"

end Note

/-- Notes in the order in which they were made. -/
abbrev Journal := List Note

namespace Journal

/-- Whether the journal was asked for, by the value of the variable that asks for it. -/
def isAskedFor (value : Option Text) : Bool :=
  (value.map fun v => decide (Text.strip v = "1")).getD false

/-- The notes on one dataset entry that is accepted or not. -/
def ofEntry (render : Feature.Renderer) (table id entry : Json) : Journal :=
  if (Feature.Record.ofJson? render table id entry).isSome && Feature.renderFails render entry then
    [.notRendered]
  else []

def ofDataset (asked : Bool) (render : Feature.Renderer) (table : Json) (dataset : Feature.Dataset) :
    Journal :=
  let isSkipped := fun (id, entry) => (Feature.Record.ofJson? render table (.str id) entry).isNone
  (dataset.flatMap fun (id, entry) =>
    if isSkipped (id, entry) then [.skipped id] else ofEntry render table (.str id) entry) ++
    if asked then [.skippedCount (dataset.filter isSkipped).length] else []

/-- The notes on an index that is built from a dataset. -/
def ofBuild (asked : Bool) (render : Feature.Renderer) (table : Json) (dataset : Feature.Dataset)
    (core : List Text) : Journal :=
  let records := Feature.records render table dataset
  let index := Index.ofRecords records core
  let unpinned := Index.ofRecords records []
  ofDataset asked render table dataset ++
    (Index.pinnedNames unpinned.markup (Index.coreNames core)).map .pinned ++
    if asked then [.indexed records.length index.markup.length index.script.length] else []

end Journal

end WebBaseline
