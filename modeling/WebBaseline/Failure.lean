import WebBaseline.Reading
import WebBaseline.Text.Quoted
import WebBaseline.Text.Utf8

/-!
What can go wrong while settings and datasets are loaded. `message` is the wording of each failure. All
but two kinds are the program's own: bytes that are no text are passed on as they are, and so is what
breaks down outside the program, such as a request for an address that cannot be asked.
-/

namespace WebBaseline

/-- A message from its details: a single detail is the message, several are listed. -/
def detailsMessage : List Text → Text
  | [] => []
  | [detail] => detail
  | details => "(" ++ Text.join ", " (details.map Text.Quoted.encode) ++ ")"

/-- What is wrong with the settings. -/
inductive ConfigFault where
  /-- Anything else. -/
  | general (details : List Text)
  /-- The file cannot be read. -/
  | unreadable (path reason : Text)
  /-- The file is not well formed. -/
  | malformed (path reason : Text)
  /-- The program's own section is no table. -/
  | notTable (path : Text)
  /-- The core properties are no list of texts. -/
  | coreProperties (path : Text)
  /-- The severity is not one of the names; `got` is how the value is written. -/
  | severity (got : Text)
deriving DecidableEq, Repr

def severityNames : List Text :=
  ["warning", "information", "hint", "none"]

namespace ConfigFault

def message : ConfigFault → Text
  | general details => detailsMessage details
  | unreadable path reason => "Unable to read config file " ++ path ++ ": " ++ reason
  | malformed path reason => "Invalid TOML in " ++ path ++ ": " ++ reason
  | notTable path => "[tool.baseline-lite] in " ++ path ++ " must be a table"
  | coreProperties path => "'core-properties' in " ++ path ++ " must be a list of strings"
  | severity got =>
    "'severity-for-limited' must be one of " ++ Text.join ", " severityNames ++ " (got " ++ got ++ ")"

end ConfigFault

/-- Why something could not be loaded. -/
inductive Failure where
  | general (details : List Text)
  /-- A download failed, with a wording of its own. -/
  | download (url message : Text)
  /-- The server could not be reached. -/
  | network (url : Text) (cause : Option Text)
  | timeout (url : Text)
  /-- The server answered with another status than success. -/
  | status (code : Int) (url : Text)
  /-- The server's answer cannot be used. -/
  | content (url reason : Text)
  /-- A local dataset cannot be read or has the wrong shape. -/
  | dataset (source reason : Text)
  | config (fault : ConfigFault)
  /-- Bytes that are no text. -/
  | encoding (e : Text.Utf8.DecodeError)
  /-- A failure of something outside the program, by its name. -/
  | foreign (name message : Text)
deriving DecidableEq, Repr

namespace Failure

def message : Failure → Text
  | general details => detailsMessage details
  | download _ message => message
  | network url cause =>
    let lead := "Unable to download dataset from " ++ url
    match cause with
    | some (c :: cause) => lead ++ " (" ++ (c :: cause) ++ ")"
    | _ => lead
  | timeout url => "Timed out downloading " ++ url
  | status code url => "Dataset server answered HTTP " ++ Text.ofInt code ++ " for " ++ url
  | content url reason => "Received " ++ reason ++ " from " ++ url
  | dataset source reason => "Unable to load dataset " ++ source ++ ": " ++ reason
  | config fault => fault.message
  | encoding e => e.message
  | foreign _ message => message

def ofBreakdown (breakdown : Breakdown) : Failure :=
  .foreign breakdown.name breakdown.message

/-- The failure of an answer that holds no JSON document. -/
def invalidContent (url : Text) : Failure :=
  .content url "invalid JSON content"

/-- Whether a failure is one of the program's own. -/
def isOwn : Failure → Bool
  | encoding _ => false
  | foreign .. => false
  | _ => true

/-- Whether a failure is one of a download. -/
def isDownload : Failure → Bool
  | download .. | network .. | timeout .. | status .. | content .. => true
  | _ => false

end Failure

/-- The value that was read. `refusal` is the failure of a document that is not in the reader's format. -/
def Reading.result {α : Type} (refusal : Text → Failure) : Reading α → Except Failure α
  | .value v => .ok v
  | .refused reason => .error (refusal reason)
  | .broken breakdown => .error (.ofBreakdown breakdown)

end WebBaseline
