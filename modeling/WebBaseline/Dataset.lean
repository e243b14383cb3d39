import WebBaseline.Download
import WebBaseline.Files
import WebBaseline.Text.Line

/-!
Loading datasets. A source is the address of a document or the path of a file. A dataset of features is an
object, or the object under `features` in one; a compatibility table is an object.
-/

namespace WebBaseline.Dataset

/-- Whether a source is the address of a document. -/
def isAddress (source : Text) : Bool :=
  source.startsWith "http://" || source.startsWith "https://"

/-- There is no directory for the user of a path. -/
def homeless : Breakdown where
  name := "RuntimeError"
  message := "Could not determine home directory."

/-- A path below the directory of a user. -/
def pathBelow (files : Files) (user : Text) (below : List Text) : Except Breakdown Text :=
  if user.contains '\x00' then .error .nullCharacter
  else match files.home? user with
    | none => .error homeless
    | some home => .ok (Path.plain (Path.withoutEnd home ++ "/" ++ Text.join "/" below))

/-- The path of a source. A tilde at its front, with the name of a user behind it, stands for a directory. -/
def path (files : Files) (source : Text) : Except Breakdown Text :=
  match Path.root source, Path.names source with
  | [], ('~' :: user) :: below => pathBelow files user below
  | _, _ => .ok (Path.plain source)

def readFile (files : Files) (source : Text) (read : Text → Reading Json) : Except Failure Json := do
  let path ← (path files source).mapError .ofBreakdown
  let text ← files.text path fun fault => .dataset source fault.message
  (read (Text.unifyBreaks text)).result fun reason => .dataset source ("invalid JSON (" ++ reason ++ ")")

/-- Loads a JSON document from an address or a file. -/
def load (files : Files) (source : Text) (net : Download.Network)
    (read : Text → Reading Json := Json.reading) : Except Failure Json × Download.Network :=
  if isAddress source then Download.fetch source Download.usualTimeout net
  else (readFile files source read, net)

def features (source : Text) (payload : Json) : Except Failure Feature.Dataset :=
  match payload with
  | .obj members =>
    match (Json.lookup "features" members).getD payload with
    | .obj features => .ok features
    | _ => .error (.dataset source "'features' is not an object")
  | _ => .error (.dataset source "expected a JSON object")

/-- The compatibility table of a document. -/
def table (source : Text) (payload : Json) : Except Failure Json :=
  if payload.isObject then .ok payload else .error (.dataset source "expected a JSON object")

end WebBaseline.Dataset
