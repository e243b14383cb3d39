import WebBaseline.CommandLine.Request
import WebBaseline.Dataset
import WebBaseline.Document.PlainText
import WebBaseline.Lookup
import WebBaseline.Panel
import WebBaseline.Report

/-!
Running the program: what it writes for its arguments, and the status that it ends with. A run is a
function of the files, the variables and the outcomes of the requests it makes, and of the readers and
parsers that the program is given.
-/

namespace WebBaseline.CommandLine

/-- How descriptions with markup are shown, if nothing else is said. -/
def renderer : Feature.Renderer := fun s => some (Document.plainText s)

/-- What the program finds around it. -/
structure World where
  files : Files
  environment : Environment := []
  outcomes : List Download.Outcome := []
  renderer : Feature.Renderer := CommandLine.renderer
  parse : Script.Parser := Script.parse?
  /-- Reads the text of a dataset that is a file. -/
  readJson : Text → Reading Json := Json.reading
  /-- Reads the body of an answer. -/
  readBody : List UInt8 → Reading Json := Download.readBody
  settings : Settings.Reader := {}

namespace World

def keepsJournal (world : World) : Bool :=
  Journal.isAskedFor (world.environment.lookup "BASELINE_LITE_DEBUG".toList)

/-- The width of what is written, in cells. -/
def width (world : World) : Nat :=
  match (world.environment.get? "COLUMNS").bind Text.int? with
  | some n => if 0 < n then n.toNat else 80
  | none => 80

def settingsOf (world : World) (sources : Sources) (severity : Option Text) : Except Failure Settings :=
  Settings.load world.files sources.config (some sources.core) severity world.settings

/-- The network at the start, with a shared client for the datasets. -/
def net (world : World) : Download.Network :=
  Download.Network.enter { outcomes := world.outcomes, read := world.readBody } Download.usualTimeout

end World

/-- What a run leaves: its status, the lines it wrote to both streams, the index it published, and the
failure that ended it if that is not one of the program's own. -/
structure Run where
  status : Nat := 0
  out : List Text := []
  err : List Text := []
  net : Download.Network := {}
  notes : Journal := []
  published : Index := {}
  escaped : Option Failure := none

namespace Run

def addOut (run : Run) (lines : List Text) : Run :=
  { run with out := run.out ++ lines }

def addErr (run : Run) (lines : List Text) : Run :=
  { run with err := run.err ++ lines }

def fail (run : Run) (message : Text) : Run :=
  { run.addErr ["Error: " ++ message] with status := 1 }

def failWith (run : Run) (failure : Failure) : Run :=
  if failure.isOwn then run.fail failure.message
  else { run with status := 1, escaped := some failure }

end Run

/-- The lines of a fault in the arguments. -/
def faultLines (command : Command) (fault : UsageFault) : List Text :=
  (if fault.showsUsage then
    [command.page.usageLine, "Try '" ++ command.call ++ " --help' for help.", []]
  else []) ++ ["Error: " ++ fault.message]

/-! ### The index -/

/-- What was loaded: the compatibility table, if there is one, and the features. -/
structure Loaded where
  table : Json
  dataset : Feature.Dataset

def loadDatasets (files : Files) (read : Text → Reading Json) (sources : Sources) (net : Download.Network) :
    Except Failure Loaded × Download.Network :=
  let (payload, net) := Dataset.load files sources.features net read
  match payload.bind (Dataset.features sources.features) with
  | .error f => (.error f, net)
  | .ok dataset =>
    match sources.compat with
    | none | some [] => (.ok ⟨.null, dataset⟩, net)
    | some source =>
      let (payload, net) := Dataset.load files source net read
      ((payload.bind (Dataset.table source)).map (⟨·, dataset⟩), net)

/-- Loads the settings and the datasets, and publishes the index built from them. -/
def loadIndex (world : World) (sources : Sources) (severity : Option Text) : Run × Except Failure Settings :=
  match world.settingsOf sources severity with
  | .error f => ({}, .error f)
  | .ok settings =>
    let (loaded, net) := loadDatasets world.files world.readJson sources world.net
    let net := net.leave
    match loaded with
    | .error f => ({ net, notes := net.notes }, .error f)
    | .ok loaded =>
      let core := settings.coreProperties
      ({ net
         notes := net.notes ++
           Journal.ofBuild world.keepsJournal world.renderer loaded.table loaded.dataset core
         published := Index.build world.renderer loaded.table loaded.dataset core }, .ok settings)

/-! ### Commands -/

/-- A text that is never wrapped, as the lines that are written. -/
def plainLines (s : Text) : List Text :=
  (Text.splitOn '\n' (Text.cleaned s)).map Text.expandTabs

/-- What a scan says of one file. -/
inductive FileReport where
  /-- The language of the file is not known. -/
  | skipped (path : Text)
  | scanned (path : Text) (findings : List Finding)

namespace FileReport

def findings : FileReport → List Finding
  | skipped _ => []
  | scanned _ findings => findings

def lines (settings : Settings) : FileReport → List Text
  | skipped path => ["Skipping " ++ path ++ ": unknown language."]
  | scanned path findings => (Report.lines path settings findings).map (·.plain)

end FileReport

def unreadable (path reason : Text) : Failure :=
  .general ["Unable to read " ++ path ++ ": " ++ reason]

def readSource (files : Files) (path : Text) : Except Failure Text :=
  match files.text path fun fault => unreadable path (fault.shown path) with
  | .error (.encoding e) => .error (unreadable path e.message)
  | .error f => .error f
  | .ok text => .ok (Text.unifyBreaks text)

def scanFile (world : World) (settings : Settings) (index : Index) (language : Option Language)
    (path : Text) : Except Failure FileReport :=
  match language.orElse fun _ => Language.ofPath? path with
  | none => .ok (.skipped path)
  | some language => (readSource world.files path).map fun text =>
    .scanned path (Report.reported settings (language.scan text index world.parse))

/-- Scans files in order, up to the first one that cannot be read. -/
def scanFiles (world : World) (settings : Settings) (index : Index) (language : Option Language) :
    List Text → List FileReport × Option Failure
  | [] => ([], none)
  | path :: paths =>
    match scanFile world settings index language path with
    | .error f => ([], some f)
    | .ok report =>
      let (reports, failure) := scanFiles world settings index language paths
      (report :: reports, failure)

/-- What a scan writes, and the status it ends with. -/
def runScan (world : World) (request : ScanRequest) : Run :=
  match loadIndex world request.sources request.severity with
  | (run, .error f) => run.failWith f
  | (run, .ok settings) =>
    let (reports, failure) := scanFiles world settings run.published request.language request.paths
    let run := run.addOut ((reports.flatMap (·.lines settings)).flatMap plainLines)
    match failure with
    | some f => run.failWith f
    | none =>
      let findings := reports.flatMap (·.findings)
      let run := run.addOut (plainLines (Report.summary findings))
      if request.strict && !findings.isEmpty then { run with status := 1 } else run

def showToken (world : World) (request : LookupRequest) (token : Text) : Run :=
  match loadIndex world request.sources none with
  | (run, .error f) => run.failWith f
  | (run, .ok _) =>
    match Lookup.resolve run.published token request.line with
    | none => run.fail ("No baseline data for " ++ token)
    | some (key, entry) => run.addOut ((entry.panel key).lines world.width)

def runLookup (world : World) (request : LookupRequest) : Run :=
  match request.subject with
  | .token token => showToken world request token
  | .column n =>
    match Lookup.wordAt request.line n with
    | none => Run.fail {} ("No token at column " ++ Text.ofInt n)
    | some token => showToken world request token

def versionLine : Text := "main, version 0.1.0"

def noteLines (notes : Journal) : List Text :=
  notes.map fun note => note.channel.name ++ ": " ++ note.message

/-- Runs the program. Without arguments it shows its help as an error. -/
def run (world : World) (args : List Text) : Run :=
  if args.isEmpty then { status := 2, err := Command.program.page.lines }
  else
    match read world.files world.environment args with
    | .error (command, fault) => { status := 2, err := faultLines command fault }
    | .ok (.help command) => { out := command.page.lines }
    | .ok .version => { out := [versionLine] }
    | .ok (.scan request) => finish (runScan world request)
    | .ok (.lookup request) => finish (runLookup world request)
where
  /-- Writes the journal, if it is to be written, before the errors. -/
  finish (run : Run) : Run :=
    if world.keepsJournal then { run with err := noteLines run.notes ++ run.err } else run

end WebBaseline.CommandLine
