import WebBaseline.Failure
import WebBaseline.Files
import WebBaseline.Status
import WebBaseline.Toml.Reader

/-!
Settings: the properties that count as widely available whatever the dataset says, and how severe a use of
a feature of limited availability is. They come from the program's section of a configuration file, and
the command line overrides them.
-/

namespace WebBaseline

/-- How severe a finding is. `none` hides it. The settings of a file or of the command line never give a
severity with a name of its own. -/
inductive Severity where
  | warning
  | information
  | hint
  | none
  | named (name : Text)
deriving DecidableEq, Repr

namespace Severity

def name : Severity → Text
  | warning => "warning"
  | information => "information"
  | hint => "hint"
  | none => "none"
  | named name => name

/-- The severities that settings can give. -/
def all : List Severity := [warning, information, hint, none]

/-- The severity of a name; case and blanks around it do not matter. -/
def ofText? (s : Text) : Option Severity :=
  all.find? fun v => v.name = (Text.strip s).lower

/-- The severity of exactly this name. -/
def ofName (s : Text) : Severity :=
  (all.find? fun v => v.name = s).getD (.named s)

end Severity

structure Settings where
  coreProperties : List Text := []
  severityForLimited : Severity := .information
deriving DecidableEq, Repr

namespace Settings

/-- How severe a finding of a status is; a status without severity is not reported. -/
def severityFor (settings : Settings) : Status → Option Severity
  | .newly => some .warning
  | .limited =>
    if settings.severityForLimited = .none then none else some settings.severityForLimited
  | .widely => none

/-! ### The configuration file -/

/-- What reads a configuration file, and how deep the values are that can be written in a message. -/
structure Reader where
  read : Text → Reading (List (Text × Toml)) := Toml.read
  depth : Nat := usualDepth

/-- The program's section of a document; it is empty if it is missing. -/
def ownSection (path : Text) (document : List (Text × Toml)) : Except Failure (List (Text × Toml)) :=
  match (Toml.lookup "tool" document).bind Toml.members? with
  | none => .ok []
  | some tool =>
    match Toml.lookup "baseline-lite" tool with
    | none => .ok []
    | some (.table own) => .ok own
    | some _ => .error (.config (.notTable path))

/-- Names without blanks around them and without blank ones. -/
def strippedNames (names : List Text) : List Text :=
  names.filterMap Text.stripped?

def texts? : List Toml → Option (List Text)
  | [] => some []
  | item :: rest => item.str?.bind fun s => (texts? rest).map (s :: ·)

/-- The core properties that a value gives. -/
def coreOf (path : Text) (value : Toml) : Except Failure (List Text) :=
  match value with
  | .arr items =>
    match texts? items with
    | some names => .ok (strippedNames names)
    | none => .error (.config (.coreProperties path))
  | _ => .error (.config (.coreProperties path))

/-- The failure of a value that is no severity, which is written in the message within `depth`. -/
def severityFailure (depth : Nat) (value : Toml) : Failure :=
  match value.shown depth with
  | .ok got => .config (.severity got)
  | .error breakdown => .ofBreakdown breakdown

def severityOf (depth : Nat) (value : Toml) : Except Failure Severity :=
  match value.str?.bind Severity.ofText? with
  | some v => .ok v
  | none => .error (severityFailure depth value)

def ofDocument (depth : Nat) (path : Text) (document : List (Text × Toml)) : Except Failure Settings := do
  let table ← ownSection path document
  let core ← match Toml.lookup "core-properties" table with
    | none => pure []
    | some value => coreOf path value
  let severity ← match Toml.lookup "severity-for-limited" table with
    | none => pure Severity.information
    | some value => severityOf depth value
  return ⟨core, severity⟩

/-- Settings with what the command line says: core properties if any are given, and a severity. -/
def override (settings : Settings) (depth : Nat) (core : Option (List Text)) (severity : Option Text) :
    Except Failure Settings := do
  let core := match core with
    | none | some [] => settings.coreProperties
    | some names => strippedNames names
  let severity ← match severity with
    | none => pure settings.severityForLimited
    | some s => severityOf depth (.str s)
  return ⟨core, severity⟩

/-- The settings in a file; `shown` is how its path is shown. -/
def ofFile (reader : Reader) (files : Files) (path shown : Text) : Except Failure Settings := do
  let text ← files.text path fun fault => .config (.unreadable shown fault.message)
  let document ← (reader.read text).result fun reason => .config (.malformed shown reason)
  ofDocument reader.depth shown document

/-- The file that is read if none is named, in the working directory. -/
def usualFile : Text := "pyproject.toml"

/-- The settings from a file, or from the usual one if there is one, with what the command line says. -/
def load (files : Files) (path : Option Text) (core : Option (List Text)) (severity : Option Text)
    (reader : Reader := {}) : Except Failure Settings := do
  let settings ← match path with
    | some path => ofFile reader files (Path.plain path) (Path.plain path)
    | none =>
      if files.isFile usualFile then
        ofFile reader files usualFile (files.directory ++ "/" ++ usualFile)
      else pure {}
  settings.override reader.depth core severity

end Settings

end WebBaseline
