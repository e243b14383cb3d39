import Mathlib.Control.Monad.Basic
import WebBaseline.Proofs.Files.Text
import WebBaseline.Proofs.Settings.Merging
import WebBaseline.Proofs.Text.Utf8

/-! Settings from files.

Loading reads the document of a file, if there is one, and merges (`load_eq`). So it comes to what merging comes to
(`merge_settles`), or fails because the file cannot be read. Some of these failures are none of the program's
own (`failsBy_load`). -/
namespace WebBaseline.Settings

/-! ### Failures of merging -/

theorem exists_severityFailure_iff {depth : Nat} {value : Toml} :
    (∃ fault, severityFailure depth value = .config fault) ↔ value.Fits depth := by
  rw [← Toml.exists_shown_iff]
  unfold severityFailure
  cases value.shown depth <;> simp [Failure.ofBreakdown]

section Merging

variable {depth : Nat} {shown : Text} {document : List (Text × Toml)} {severity : Option Text}

/-- There is one failure, since merging is a function. -/
theorem Fails.unique {f g : Failure} (hf : Fails depth shown document severity f)
    (hg : Fails depth shown document severity g) : f = g := by
  have hmerge := decides_merge depth shown document none severity
  exact Except.error.inj (((hmerge.error_iff f).mpr hf).symm.trans ((hmerge.error_iff g).mpr hg))

/-- The failure is one of settings unless it is that of a severity that cannot be written. -/
theorem exists_config_iff :
    (∃ fault, Fails depth shown document severity (.config fault)) ↔
      IsWrong document severity ∧ ∀ value, Refused document severity value → value.Fits depth := by
  constructor
  · rintro ⟨fault, hf⟩
    refine ⟨isWrong_of_fails hf, fun value h => exists_severityFailure_iff.mp ⟨fault, ?_⟩⟩
    exact (Fails.severity value h).unique hf
  · rintro ⟨hwrong, hfits⟩
    have hfails : ∃ f, Fails depth shown document severity f := exists_fails_iff.mpr hwrong
    obtain ⟨f, hf⟩ := hfails
    cases hf with
    | entry h => exact ⟨_, .entry h⟩
    | core value hvalue hno => exact ⟨_, .core value hvalue hno⟩
    | severity value h =>
      obtain ⟨fault, hfault⟩ := exists_severityFailure_iff.mpr (hfits value h)
      exact ⟨fault, hfault ▸ .severity value h⟩

end Merging

/-! ### Files -/

/-- The file that settings are read from, if there is one. -/
def file? (files : Files) (path : Option Text) : Option Text :=
  match path with
  | some path => some (Path.plain path)
  | none => if files.isFile usualFile then some usualFile else none

/-- How the file is shown. -/
def shownFile (files : Files) (path : Option Text) : Text :=
  match path with
  | some path => Path.plain path
  | none => files.directory ++ "/" ++ usualFile

/-- The document of a file. -/
def readDocument (reader : Reader) (files : Files) (path shown : Text) : Except Failure (List (Text × Toml)) :=
  (files.text path fun fault => .config (.unreadable shown fault.message)).bind fun text =>
    (reader.read text).result fun reason => .config (.malformed shown reason)

/-- The document that settings are read from; it is empty if there is no file. -/
def documentOf (reader : Reader) (files : Files) (path : Option Text) : Except Failure (List (Text × Toml)) :=
  match file? files path with
  | some file => readDocument reader files file (shownFile files path)
  | none => .ok []

/-- Loading merges the document. -/
theorem load_eq (reader : Reader) (files : Files) (path : Option Text) (core : Option (List Text))
    (severity : Option Text) :
    load files path core severity reader =
      (documentOf reader files path).bind fun document =>
        merge reader.depth (shownFile files path) document core severity := by
  have hfile (file shown : Text) :
      (ofFile reader files file shown).bind (fun settings => settings.override reader.depth core severity) =
        (readDocument reader files file shown).bind fun document =>
          merge reader.depth shown document core severity := by
    unfold ofFile readDocument merge
    cases files.text file fun fault => .config (.unreadable shown fault.message) with
    | error f => rfl
    | ok text => cases hread : reader.read text <;> simp [bind, Except.bind, hread, Reading.result]
  cases path with
  | some path => exact hfile (Path.plain path) (Path.plain path)
  | none =>
    unfold load documentOf file?
    by_cases husual : files.isFile usualFile
    · simp only [husual, if_true]
      exact hfile usualFile _
    · simp only [husual, Bool.false_eq_true, if_false]
      rfl

/-- What settings are read from: the document that a file holds, or an empty one if there is no file. -/
inductive Reads (reader : Reader) (files : Files) (path : Option Text) : List (Text × Toml) → Prop
  | file (file text : Text) (document : List (Text × Toml)) : file ∈ file? files path →
      files.HasText file text → reader.read text = .value document → Reads reader files path document
  | noFile : file? files path = none → Reads reader files path []

variable {reader : Reader} {files : Files} {path : Option Text}

theorem readDocument_eq_ok_iff {file shown : Text} {document : List (Text × Toml)} :
    readDocument reader files file shown = .ok document ↔
      ∃ text, files.HasText file text ∧ reader.read text = .value document := by
  rw [readDocument, bind_eq_ok_iff]
  simp only [Files.text_eq_ok_iff, Reading.result_eq_ok_iff]

theorem documentOf_eq_ok_iff {members : List (Text × Toml)} :
    documentOf reader files path = .ok members ↔ Reads reader files path members := by
  unfold documentOf
  cases hfile : file? files path with
  | none =>
    constructor
    · intro h
      cases h
      exact .noFile hfile
    · intro h
      cases h with
      | file _ _ _ hsome => cases hfile.symm.trans hsome
      | noFile => rfl
  | some file =>
    simp only [readDocument_eq_ok_iff]
    constructor
    · intro ⟨text, htext, hread⟩
      exact .file file text members hfile htext hread
    · intro h
      cases h with
      | file _ text _ hsome htext hread =>
        cases hfile.symm.trans hsome
        exact ⟨text, htext, hread⟩
      | noFile hnone => cases hfile.symm.trans hnone

/-- Loading comes to what merging comes to, with what is read. -/
theorem load_of_reads {members : List (Text × Toml)} (h : Reads reader files path members)
    (core : Option (List Text)) (severity : Option Text) :
    load files path core severity reader =
      merge reader.depth (shownFile files path) members core severity := by
  rw [load_eq, documentOf_eq_ok_iff.mpr h]
  rfl

/-! ### Failures of loading -/

/-- What loading settings passes on. -/
inductive Escapes (reader : Reader) (files : Files) (path severity : Option Text) : Failure → Prop
  | file {file : Text} {f : Failure} : file ∈ file? files path → files.Escapes file f →
      Escapes reader files path severity f
  | broken {file text : Text} {breakdown : Breakdown} : file ∈ file? files path → files.HasText file text →
      reader.read text = .broken breakdown → Escapes reader files path severity (.ofBreakdown breakdown)
  /-- The severity is no name, and cannot be written in the message. -/
  | unwritten {document : List (Text × Toml)} {value : Toml} {breakdown : Breakdown} :
      Reads reader files path document → Refused document severity value →
      value.shown reader.depth = .error breakdown →
      Escapes reader files path severity (.ofBreakdown breakdown)

/-- **Settings come field by field from the command line, the document, and the defaults.** They fail just if
the program's own entry is no table, one of its two fields is not as it has to be, or the command line names
no severity, also where another source goes before the one at fault. The failure is one of settings, unless it is
that of a severity that cannot be written. If nothing is wrong, each field has its value from the first source
that gives one, and names come without blanks around them. So it is for every document, and `load` comes to the
same with the document of its file. -/
theorem merge_settles (depth : Nat) (shown : Text) (document : List (Text × Toml)) (core : Option (List Text))
    (severity : Option Text) :
    (∀ f, merge depth shown document core severity = .error f ↔ Fails depth shown document severity f) ∧
    ((∃ f, merge depth shown document core severity = .error f) ↔ IsWrong document severity) ∧
    ((∃ fault, merge depth shown document core severity = .error (.config fault)) ↔
      IsWrong document severity ∧ ∀ value, Refused document severity value → value.Fits depth) ∧
    (¬ IsWrong document severity →
      ∃ settings, merge depth shown document core severity = .ok settings ∧
        CoreOf document core settings.coreProperties ∧
        SeverityOf document severity settings.severityForLimited) ∧
    (∀ settings, merge depth shown document core severity = .ok settings → IsNormal settings) ∧
    ∀ reader files path, reader.depth = depth → shown = shownFile files path →
      Reads reader files path document →
      load files path core severity reader = merge depth shown document core severity := by
  have hdecides := decides_merge depth shown document core severity
  refine ⟨hdecides.error_iff, hdecides.exists_error_iff.trans exists_fails_iff, ?_, fun hright => ?_, ?_, ?_⟩
  · simp only [hdecides.error_iff, exists_config_iff]
  · exact hdecides.exists_ok fun f hf => hright (isWrong_of_fails hf)
  · intro settings hok
    obtain ⟨hcore, hseverity⟩ := hdecides.of_ok settings hok
    exact isNormal_of hcore hseverity
  · rintro reader files path rfl rfl hreads
    exact load_of_reads hreads core severity

/-- A file is read, with what `view` sees of its document. -/
theorem exists_reads {files : Files} {file text : Text} (hplain : Path.plain file = file)
    (htext : files.HasText file text) {β : Type} {view : List (Text × Toml) → β} {seen : β}
    (hview : ((Toml.read text).result fun reason => .general [reason]).map view = .ok seen) :
    ∃ document, Reads {} files (some file) document ∧ view document = seen := by
  obtain ⟨document, hread, hseen⟩ := map_eq_ok_iff.mp hview
  have hvalue := Reading.result_eq_ok_iff.mp hread
  exact ⟨document, .file file text document (congrArg some hplain) htext hvalue, hseen⟩

/-- A file with both fields: the names of the command line go before its own, and its severity stays. In the
other file the core properties are no list, which is a fault though other ones are given. -/
theorem merge_settles_layers :
    let text : Text := "[tool.baseline-lite]\ncore-properties = ['gap']\nseverity-for-limited = ' Hint'"
    let faulty : Text := "[tool.baseline-lite]\ncore-properties = 'gap'"
    let files : Files := .ofList "/work"
      [("a.toml", .file (Text.Utf8.encode text)), ("b.toml", .file (Text.Utf8.encode faulty))]
    let core : Option (List Text) := some [" zoom", " "]
    ∃ a b, Reads {} files (some "a.toml") a ∧ ¬ IsWrong a none ∧
      load files (some "a.toml") none none = .ok ⟨["gap"], .hint⟩ ∧
      load files (some "a.toml") core none = .ok ⟨["zoom"], .hint⟩ ∧
      CoreOf a core ["zoom"] ∧ SeverityOf a none .hint ∧ IsNormal ⟨["zoom"], .hint⟩ ∧
      Reads {} files (some "b.toml") b ∧ IsWrong b none ∧
      load files (some "b.toml") core none = .error (.config (.coreProperties "b.toml")) := by
  intro text faulty files core
  have htexta : files.HasText "a.toml" text := ⟨Text.Utf8.encode text, rfl, Text.Utf8.decode_encode text⟩
  have htextb : files.HasText "b.toml" faulty :=
    ⟨Text.Utf8.encode faulty, rfl, Text.Utf8.decode_encode faulty⟩
  have hplaina : Path.plain "a.toml" = "a.toml".toList := by decide +kernel
  have hplainb : Path.plain "b.toml" = "b.toml".toList := by decide +kernel
  have hmergea : ((Toml.read text).result fun reason => .general [reason]).map
      (fun a => (merge usualDepth "a.toml" a none none, merge usualDepth "a.toml" a core none)) =
        .ok (.ok ⟨["gap"], .hint⟩, .ok ⟨["zoom"], .hint⟩) := by decide +kernel
  have hmergeb : ((Toml.read faulty).result fun reason => .general [reason]).map
      (fun b => merge usualDepth "b.toml" b core none) =
        .ok (.error (.config (.coreProperties "b.toml"))) := by decide +kernel
  obtain ⟨a, ha, hmergea⟩ := exists_reads hplaina htexta hmergea
  obtain ⟨b, hb, hmergeb⟩ := exists_reads hplainb htextb hmergeb
  obtain ⟨hfile, hmerge⟩ := Prod.mk.inj hmergea
  obtain ⟨-, hiff, -, hok, hnormal, hload⟩ := merge_settles usualDepth "a.toml" a core none
  obtain ⟨-, -, -, -, -, hloadfile⟩ := merge_settles usualDepth "a.toml" a none none
  obtain ⟨-, hiffb, -, -, -, hloadb⟩ := merge_settles usualDepth "b.toml" b core none
  have hright : ¬ IsWrong a none := fun h => by
    obtain ⟨f, hf⟩ := hiff.mpr h
    cases hmerge.symm.trans hf
  obtain ⟨settings, hsettings, hcore, hseverity⟩ := hok hright
  cases hmerge.symm.trans hsettings
  refine ⟨a, b, ha, hright, ?_, ?_, hcore, hseverity, hnormal _ hmerge, hb, hiffb.mp ⟨_, hmergeb⟩, ?_⟩
  · rw [hloadfile {} files (some "a.toml") rfl hplaina.symm ha, hfile]
  · rw [hload {} files (some "a.toml") rfl hplaina.symm ha, hmerge]
  · rw [hloadb {} files (some "b.toml") rfl hplainb.symm hb, hmergeb]

/-- A severity of more digits than can be written: settings fail, but not as settings. -/
theorem long_severity_escapes :
    let own : Toml := .table [("severity-for-limited", .int (Nat.pow 16 4000 - 1 : Nat))]
    let document : List (Text × Toml) := [("tool", .table [("baseline-lite", own)])]
    IsWrong document none ∧
    merge usualDepth "c.toml" document none none = .error (.ofBreakdown .digitsWritten) ∧
    ¬ ∃ fault, merge usualDepth "c.toml" document none none = .error (.config fault) := by
  intro own document
  have hmerge : merge usualDepth "c.toml" document none none = .error (.ofBreakdown .digitsWritten) := by
    decide +kernel
  have hsetting : OwnSetting document "severity-for-limited" (.int (Nat.pow 16 4000 - 1 : Nat)) :=
    ⟨_, ⟨_, rfl, rfl⟩, rfl⟩
  have hno : ¬ IsSeverity (.int (Nat.pow 16 4000 - 1 : Nat)) := fun ⟨s, v, hs, _⟩ => by cases hs
  refine ⟨.ownSeverity _ hsetting hno, hmerge, fun ⟨fault, hfault⟩ => ?_⟩
  cases hmerge.symm.trans hfault

end WebBaseline.Settings
