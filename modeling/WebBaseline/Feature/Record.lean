import WebBaseline.Feature.Key
import WebBaseline.Status

/-!
Feature records. A dataset entry is any JSON value; `ofJson?` accepts the ones that describe a feature
with a recognised status and narrows them to a `Record`. The address of the documentation is the first
that exists of: the entry's own address, the compatibility table's, the entry's page name, and a guess
from the feature's paths.
-/

namespace WebBaseline.Feature

structure Record where
  id : Text
  name : Text
  status : Status
  url : Option Text
  description : Option Text
  paths : List Text
  lowDate : Option Text
  highDate : Option Text

/-- The stripped text of a string member, if it is not blank. -/
def textMember? (entry : Json) (name : Text) : Option Text :=
  ((entry.get? name).bind Json.str?).bind Text.stripped?

/-! ### Status and dates -/

/-- The value that holds the status: the one in the `status` object, or else the entry's own. -/
def rawStatus? (entry : Json) : Option Json :=
  match (entry.get? "status").bind (·.get? "baseline") with
  | some value => some value
  | none => entry.get? "baseline"

/-- A date member of the `status` object, or, where that is missing or null, of the entry. -/
def date? (entry : Json) (name : Text) : Option Text :=
  let value := match (entry.get? "status").bind (·.get? name) with
    | none | some .null => entry.get? name
    | some value => some value
  (value.bind Json.str?).bind Text.stripped?

/-- Whether the entry describes a feature, and not a moved or a split one. -/
def isFeature (entry : Json) : Bool :=
  entry.isObject && match entry.get? "kind" with
    | none => true
    | some (.str kind) => kind = "feature"
    | some _ => false

/-- The paths of a feature, stripped, without blank ones. -/
def entryPaths (entry : Json) : List Text :=
  match entry.get? "compat_features" with
  | some (.arr items) => items.filterMap fun item => item.str?.bind Text.stripped?
  | _ => []

/-! ### Documentation pages -/

/-- The value reached from `node` by following member names. -/
def follow? (node : Json) : List Text → Option Json
  | [] => some node
  | name :: names => (node.get? name).bind (follow? · names)

/-- The address that the compatibility table gives for a path. -/
def tablePage? (table : Json) (path : Text) : Option Text :=
  (follow? table (path.splitOn '.')).bind fun node =>
    (node.get? "__compat").bind (textMember? · "mdn_url")

def ownPage? (entry : Json) : Option Text :=
  textMember? entry "mdn_url" <|> textMember? entry "mdnUrl"

def stripSlashes (s : Text) : Text :=
  ((s.dropWhile (· == '/')).reverse.dropWhile (· == '/')).reverse

/-- The address made of the entry's page name. -/
def namedPage? (entry : Json) : Option Text :=
  (textMember? entry "mdn_slug").map fun name => docsBase ++ "/" ++ stripSlashes name

/-- The address of the documentation: the first that exists. -/
def page? (table entry : Json) (paths : List Text) : Option Text :=
  ownPage? entry <|> paths.findSome? (tablePage? table) <|> namedPage? entry <|>
    paths.findSome? guessedPage

/-! ### Descriptions -/

/-- How rich text becomes plain text; a renderer may fail. -/
abbrev Renderer := Text → Option Text

/-- The rich description as plain text, or else the plain one. -/
def description? (render : Renderer) (entry : Json) : Option Text :=
  match ((entry.get? "description_html").bind Json.str?).bind render with
  | some (c :: rest) => some (c :: rest)
  | _ => textMember? entry "description"

/-- Whether the renderer fails on the entry's rich description. -/
def renderFails (render : Renderer) (entry : Json) : Bool :=
  match (entry.get? "description_html").bind Json.str? with
  | some html => (render html).isNone
  | none => false

/-! ### Records -/

/-- The record of a dataset entry, if it describes a feature with a recognised status. -/
def Record.ofJson? (render : Renderer) (table id entry : Json) : Option Record := do
  let id ← id.str?
  let _ ← Text.stripped? id
  guard (isFeature entry)
  let status ← (rawStatus? entry).bind Status.ofJson?
  let paths := entryPaths entry
  return {
    id
    name := (textMember? entry "name").getD id
    status
    url := page? table entry paths
    description := description? render entry
    paths
    lowDate := date? entry "baseline_low_date"
    highDate := date? entry "baseline_high_date" }

/-- A dataset: entries under their identifiers, in order. -/
abbrev Dataset := List (Text × Json)

def records (render : Renderer) (table : Json) (dataset : Dataset) : List Record :=
  dataset.filterMap fun (id, entry) => Record.ofJson? render table (.str id) entry

end WebBaseline.Feature
