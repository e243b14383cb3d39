import WebBaseline.CommandLine.Help
import WebBaseline.Language
import WebBaseline.Settings

/-!
The commands of the program and what they are asked to do. `read` turns arguments into a request, or says
what is wrong with them and with which command.
-/

namespace WebBaseline.CommandLine

abbrev Environment := List (Text × Text)

/-- A variable; an empty one counts as missing. -/
def Environment.get? (environment : Environment) (name : Text) : Option Text :=
  match environment.lookup name with
  | some [] => none
  | value => value

/-- Where the datasets and the settings come from. -/
structure Sources where
  features : Text
  compat : Option Text
  core : List Text
  config : Option Text
deriving DecidableEq, Repr

structure ScanRequest where
  paths : List Text
  sources : Sources
  severity : Option Text
  /-- The language of all files, if it is not told from their names. -/
  language : Option Language
  /-- Whether findings make the run fail. -/
  strict : Bool
deriving DecidableEq, Repr

/-- What is looked up: a token, or the word at a column of the line. -/
inductive Subject where
  | token (text : Text)
  | column (n : Int)
deriving DecidableEq, Repr

structure LookupRequest where
  subject : Subject
  /-- The line that the subject stands in. -/
  line : Text
  sources : Sources
deriving DecidableEq, Repr

/-- The program, or one of its commands. -/
inductive Command where
  | program
  | scan
  | lookup
deriving DecidableEq, Repr

inductive Request where
  | help (command : Command)
  | version
  | scan (request : ScanRequest)
  | lookup (request : LookupRequest)
deriving DecidableEq, Repr

/-! ### Switches -/

/-- The address of the dataset that is used if none is named. -/
def usualFeatures : Text := "https://unpkg.com/web-features/data.json"

/-- The address that the help gives for the compatibility table. -/
def compatExample : Text := "https://unpkg.com/@mdn/browser-compat-data/data.json"

def helpSwitch : Switch where
  names := ["-h", "--help"]
  kind := .flag
  help := "Show this message and exit."

def versionSwitch : Switch where
  names := ["-v", "--version"]
  kind := .flag
  help := "Show the version and exit."

/-- The switches that say where datasets and settings come from. -/
def sourceSwitches : List Switch := [
  { names := ["--features"], kind := .text "TEXT"
    help := "web-features data.json (path or URL).  [default: " ++ usualFeatures ++ "]" },
  { names := ["--compat"], kind := .text "TEXT"
    help := "Optional browser-compat-data data.json (path or URL) for MDN links, e.g. " ++ compatExample },
  { names := ["--core-property"], kind := .text "NAME"
    help := "CSS property to treat as widely available. Repeatable." },
  { names := ["--config"], kind := .file
    help := "TOML file with a [tool.baseline-lite] table (default: ./pyproject.toml)." }]

namespace Command

def switches : Command → List Switch
  | program => [versionSwitch, helpSwitch]
  | scan => sourceSwitches ++ [
      { names := ["--severity-for-limited"], kind := .choice severityNames
        help := "Severity for limited-availability findings ('none' hides them)." },
      { names := ["--language"], kind := .choice (Language.all.map Language.name)
        help := "Language of every file, instead of detecting it from the extension." },
      { names := ["--strict"], kind := .flag
        help := "Exit with status 1 when anything is reported." },
      helpSwitch]
  | lookup => [
      { names := ["--line"], kind := .text "TEXT"
        help := "Source line containing the token, for property value lookups." },
      { names := ["--column"], kind := .count
        help := "0-based column in --line; the word there is looked up when TOKEN is omitted.  [x>=0]" }] ++
      sourceSwitches ++ [helpSwitch]

/-! ### Help -/

/-- The words that call a command. -/
def call : Command → Text
  | program => "main"
  | scan => "main scan"
  | lookup => "main lookup"

def usage (command : Command) : Text :=
  command.call ++ " [OPTIONS]" ++ match command with
    | program => " COMMAND [ARGS]..."
    | scan => " PATHS..."
    | lookup => " [TOKEN]"

def purpose : Command → Text
  | program => "Flag web-platform features that are not Baseline widely available"
  | scan => "Scan CSS, HTML and JS/TS files."
  | lookup => "Show Baseline details for a property, selector, element or API."

def examples : Command → List Text
  | program => [
      "Example usages:",
      "  baseline-lite scan styles.css index.html app.ts",
      "  baseline-lite lookup :has",
      "  baseline-lite lookup balance --line \"text-wrap: balance;\"",
      "  baseline-lite lookup --line \"dialog::backdrop \x7b\" --column 9"]
  | _ => []

/-- The commands below a command, with their names in order. -/
def below : Command → List (Text × Command)
  | program => [("lookup", lookup), ("scan", scan)]
  | _ => []

def page (command : Command) : HelpPage where
  usage := command.usage
  description := .running command.purpose ::
    if command.examples.isEmpty then [] else [.fixed command.examples]
  glossaries :=
    ⟨"Options", command.switches.map fun o => (o.term, o.help)⟩ ::
      if command.below.isEmpty then []
      else [⟨"Commands", command.below.map fun (name, c) => (name, c.purpose)⟩]

end Command

/-! ### Reading arguments -/

/-- The sources that are asked for; variables stand in for switches that are not given. -/
def sourcesOf (environment : Environment) (d : Divided) : Sources where
  features := (d.value? "--features").getD
    ((environment.get? "BASELINE_LITE_FEATURES").getD usualFeatures)
  compat := match d.value? "--compat" with
    | some value => some value
    | none => environment.get? "BASELINE_LITE_COMPAT"
  core := d.values "--core-property"
  config := d.value? "--config"

def readScan (files : Files) (environment : Environment) (d : Divided) : Except UsageFault Request := do
  if d.rest.isEmpty then throw (.missingArgument "PATHS...")
  if let some reason := d.rest.findSome? (fileFault? files) then throw (.invalid "PATHS..." reason)
  return .scan {
    paths := d.rest.map Path.plain
    sources := sourcesOf environment d
    severity := d.value? "--severity-for-limited"
    language := (d.value? "--language").bind Language.ofName?
    strict := d.has "--strict" }

def subjectOf (d : Divided) (line : Text) : Except UsageFault Subject :=
  match d.rest, (d.value? "--column").bind Text.int? with
  | token :: _, _ => .ok (.token token)
  | [], some n => if line.isEmpty then .error .nothingToLookUp else .ok (.column n)
  | [], none => .error .nothingToLookUp

def readLookup (environment : Environment) (d : Divided) : Except UsageFault Request := do
  unless d.rest.length ≤ 1 do throw (.extraArguments (d.rest.drop 1))
  let line := (d.value? "--line").getD []
  return .lookup { subject := ← subjectOf d line, line, sources := sourcesOf environment d }

/-- The request for a command below the program. A call for help goes before everything that is wrong with
the values. -/
def readCommand (files : Files) (environment : Environment) (command : Command) (args : List Text) :
    Except UsageFault Request := do
  let d ← divide command.switches true args
  if d.has "--help" then return .help command
  if let some fault := d.fault? files then throw fault
  match command with
  | .lookup => readLookup environment d
  | _ => readScan files environment d

/-- What the program's own switches ask for, by the first of them. -/
def ownRequest (d : Divided) : Option Request :=
  d.given.head?.map fun g => if g.switch = versionSwitch then .version else .help .program

/-- What is said where a command should stand that is none. A switch there is read again as one. -/
def readUnknown (name : Text) (args : List Text) : Except UsageFault Request := do
  let d ← divide Command.program.switches false (name :: args)
  match ownRequest d with
  | some request => return request
  | none => throw (.unknownCommand name (Text.alike name (Command.program.below.map (·.1))))

/-- The request of arguments, or what is wrong with them and with which command. -/
def read (files : Files) (environment : Environment) (args : List Text) :
    Except (Command × UsageFault) Request := do
  let d ← (divide Command.program.switches false args).mapError (.program, ·)
  match ownRequest d, d.rest with
  | some request, _ => return request
  | none, [] => throw (.program, .missingCommand)
  | none, name :: args =>
    match Command.program.below.lookup name with
    | some command => (readCommand files environment command args).mapError (command, ·)
    | none => (readUnknown name args).mapError (.program, ·)

end WebBaseline.CommandLine
